import BraceTemplate.Number.Numeral
import BraceTemplate.Value.Basic

/-!
# Tokens of JSON

A JSON text is read token by token, up to its first defect: a string that does not end well, or
characters that begin no token. `NaN` and the infinities are numbers here.
-/

namespace BraceTemplate.Json

/-- What can be wrong with a JSON text. -/
inductive Defect where
  | byteOrderMark
  | valueExpected
  | nameExpected
  | colonExpected
  | commaExpected
  | extraData
  | unterminatedString
  | controlCharacter
  | badEscape
  | badUnicodeEscape
deriving DecidableEq

namespace Defect

def message : Defect → Text
  | .byteOrderMark => "Unexpected UTF-8 BOM (decode using utf-8-sig)"
  | .valueExpected => "Expecting value"
  | .nameExpected => "Expecting property name enclosed in double quotes"
  | .colonExpected => "Expecting ':' delimiter"
  | .commaExpected => "Expecting ',' delimiter"
  | .extraData => "Extra data"
  | .unterminatedString => "Unterminated string starting at"
  | .controlCharacter => "Invalid control character at"
  | .badEscape => "Invalid \\escape"
  | .badUnicodeEscape => "Invalid \\uXXXX escape"

end Defect

inductive Token where
  | openObject
  | closeObject
  | openArray
  | closeArray
  | colon
  | comma
  | string (t : Text)
  /-- A number, a truth value or null. -/
  | scalar (v : Value)
  /-- A string with a defect. -/
  | broken (defect : Defect)
  /-- Characters that begin no token. -/
  | junk

def isBlank (c : CodePoint) : Bool :=
  c ∈ ([' ', '\t', '\n', '\r'] : Text)

/-! ## Strings -/

def isHexDigit (c : CodePoint) : Bool :=
  c.isDigit || ('a' ≤ c && c ≤ 'f') || ('A' ≤ c && c ≤ 'F')

def hexDigitValue (c : CodePoint) : Nat :=
  if c.isDigit then c.toNat - '0'.toNat
  else if 'a' ≤ c then c.toNat - 'a'.toNat + 10
  else c.toNat - 'A'.toNat + 10

/-- The unit that four hexadecimal digits write. At least one character has to follow them. -/
def hexUnit? (t : Text) : Option Nat :=
  if 4 < t.length ∧ (t.take 4).all isHexDigit then
    some ((t.take 4).foldl (fun n c => n * 16 + hexDigitValue c) 0)
  else none

def isHighSurrogate (unit : Nat) : Bool :=
  decide (0xD800 ≤ unit ∧ unit < 0xDC00)

def isLowSurrogate (unit : Nat) : Bool :=
  decide (0xDC00 ≤ unit ∧ unit < 0xE000)

/-- The number of the character that a pair of surrogates stands for. -/
def joinSurrogates (high low : Nat) : Nat :=
  0x10000 + (high - 0xD800) * 0x400 + (low - 0xDC00)

/-- The code point behind `\u`, and how many characters write it. A high surrogate takes a second
escape with it if that is a low one, and else it stands by itself. -/
def unicodeEscape (t : Text) : Except Defect (CodePoint × Nat) :=
  match hexUnit? t with
  | none => .error .badUnicodeEscape
  | some unit =>
    match isHighSurrogate unit, t.drop 4 with
    | true, '\\' :: 'u' :: second =>
      if 4 < second.length then
        match hexUnit? second with
        | none => .error .badUnicodeEscape
        | some low =>
          if isLowSurrogate low then .ok (.ofNat (joinSurrogates unit low), 10)
          else .ok (.ofNat unit, 4)
      else .ok (.ofNat unit, 4)
    | _, _ => .ok (.ofNat unit, 4)

/-- The escapes of one character. -/
def shortEscapes : List (CodePoint × CodePoint) :=
  [('\x22', '\x22'), ('\\', '\\'), ('/', '/'), ('b', '\x08'), ('f', '\x0c'), ('n', '\n'),
   ('r', '\r'), ('t', '\t')]

/-- The character that is written behind a backslash, and how many characters write it. -/
def escapedChar (t : Text) : Except Defect (CodePoint × Nat) :=
  match t with
  | [] => .error .unterminatedString
  | 'u' :: rest => (unicodeEscape rest).map fun (c, count) => (c, count + 1)
  | c :: _ =>
    match shortEscapes.lookup c with
    | some escaped => .ok (escaped, 1)
    | none => .error .badEscape

/-- The content of a string up to its closing quote, and what follows it. -/
def stringContent (t : Text) : Except Defect (Text × Text) :=
  match t with
  | [] => .error .unterminatedString
  | '\x22' :: rest => .ok ([], rest)
  | '\\' :: rest =>
    match escapedChar rest with
    | .error defect => .error defect
    | .ok (c, count) =>
      (stringContent (rest.drop count)).map fun (content, after) => (c :: content, after)
  | c :: rest =>
    if c < ' ' then .error .controlCharacter
    else (stringContent rest).map fun (content, after) => (c :: content, after)
termination_by t.length
decreasing_by
  · simp only [List.length_drop, List.length_cons]; omega
  · simp

/-! ## Numbers -/

/-- The digits of a whole number: a zero stands alone. -/
def wholeDigits (t : Text) : Text :=
  match t with
  | '0' :: _ => ['0']
  | _ => t.takeWhile CodePoint.isDigit

/-- A point and the digits behind it, if there are any. -/
def fractionPart (t : Text) : Text :=
  match t with
  | '.' :: rest =>
    let digits := rest.takeWhile CodePoint.isDigit
    if digits.isEmpty then [] else '.' :: digits
  | _ => []

/-- A letter `e`, a sign and digits, if there are any. -/
def exponentPart (t : Text) : Text :=
  match t with
  | c :: rest =>
    if c = 'e' ∨ c = 'E' then
      let digits := (Numeral.takeSign rest).2.takeWhile CodePoint.isDigit
      let sign := rest.take (rest.length - (Numeral.takeSign rest).2.length)
      if digits.isEmpty then [] else c :: sign ++ digits
    else []
  | [] => []

/-- The number that a text starts with, and how many characters write it. One without fraction and
exponent is a whole number. -/
def number? (t : Text) : Option (Value × Nat) :=
  let sign : Text := if t.head? = some ('-' : CodePoint) then ['-'] else []
  let size := t.drop sign.length
  let whole := wholeDigits size
  let fraction := fractionPart (size.drop whole.length)
  let exponent := exponentPart (size.drop (whole.length + fraction.length))
  let count := sign.length + whole.length + fraction.length + exponent.length
  if whole.isEmpty then none
  else if fraction.isEmpty ∧ exponent.isEmpty then
    let size : Int := Text.toNat whole
    some (.int (if sign.isEmpty then size else -size), count)
  else
    (Numeral.readDecimal? (whole ++ fraction ++ exponent)).map fun s =>
      (.float (s.toBinary64 !sign.isEmpty), count)

/-! ## Tokens -/

/-- The words that are values. -/
def words : List (Text × Value) :=
  [("null", .null), ("true", .bool true), ("false", .bool false), ("NaN", .float .nan),
   ("Infinity", .float (.infinite false)), ("-Infinity", .float (.infinite true))]

/-- The characters that are tokens. -/
def marks : List (CodePoint × Token) :=
  [(openBrace, .openObject), (closeBrace, .closeObject), ('[', .openArray), (']', .closeArray),
   (':', .colon), (',', .comma)]

/-- The word or number that a text starts with, and how many characters write it. -/
def scalar? (t : Text) : Option (Value × Nat) :=
  match words.find? (·.1.isPrefixOf t) with
  | some (word, v) => some (v, word.length)
  | none => number? t

/-- The token that starts with `c`, and how many characters of `rest` belong to it. -/
def tokenAt (c : CodePoint) (rest : Text) : Token × Nat :=
  if c = '\x22' then
    match stringContent rest with
    | .ok (content, after) => (.string content, rest.length - after.length)
    | .error defect => (.broken defect, rest.length)
  else
    match marks.lookup c with
    | some token => (token, 0)
    | none =>
      match scalar? (c :: rest) with
      | some (v, count) => (.scalar v, count - 1)
      | none => (.junk, rest.length)

/-- The tokens of a text, up to the first defect. -/
def tokens (t : Text) : List Token :=
  match t with
  | [] => []
  | c :: rest =>
    if isBlank c then tokens rest
    else (tokenAt c rest).1 :: tokens (rest.drop (tokenAt c rest).2)
termination_by t.length
decreasing_by
  · simp
  · simp only [List.length_drop, List.length_cons]; omega

end BraceTemplate.Json
