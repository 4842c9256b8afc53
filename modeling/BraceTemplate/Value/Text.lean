import BraceTemplate.Text.Quoted
import BraceTemplate.Value.Basic

/-!
# Texts of values

Every value has a default text, the one that stands in for a placeholder without specification. The
items of a sequence are joined by commas, at every depth. Beside it stands the literal text, which
shows the value as it is typed in and is used where a value is reported as a code name.
-/

namespace BraceTemplate

/-- A whole number or a quotient in lowest terms. -/
def ratText (q : Rat) : Text :=
  if q.den = 1 then Text.ofInt q.num else Text.ofInt q.num ++ ('/' : CodePoint) :: Text.ofNat q.den

/-- The text of a builtin type. -/
def typeText (name : Text) : Text :=
  "<class '" ++ name ++ "'>"

namespace Value

mutual

/-- The default text of a value. -/
def stringify : Value → Text
  | .null => "null"
  | .bool b => if b then "true" else "false"
  | .text t => t
  | .int i => Text.ofInt i
  | .float x => x.text
  | .fraction q => ratText q
  | .decimal d => d.text
  | .complex z => z.text
  | .bytes b => Text.quotedBytes b
  | .list items => stringifyItems items
  | .tuple items => stringifyItems items
  | .mapping name _ => "[object " ++ name ++ "]"
  | .function name _ => "function " ++ name
  | .type name _ => typeText name
  | .object _ shown _ _ => shown

/-- The default texts of items, with commas between them. Inside a sequence a null has no text. -/
def stringifyItems : List Value → Text
  | [] => []
  | [item] => if item.isNull then [] else stringify item
  | item :: next :: rest =>
    (if item.isNull then [] else stringify item) ++
      (',' : CodePoint) :: stringifyItems (next :: rest)

end

/-- Texts with a comma and a blank between them. -/
def commaJoined (ts : List Text) : Text :=
  List.intercalate (", " : Text) ts

/-- A mapping of this type as it is typed in, when its entries are. -/
def mappingLiteral (typeName entries : Text) : Text :=
  if typeName = "OrderedDict" then
    if entries.isEmpty then "OrderedDict()" else "OrderedDict([" ++ entries ++ "])"
  else
    let braced : Text := "\x7b" ++ entries ++ "\x7d"
    if typeName = "ChainMap" ∨ typeName = "mappingproxy" then typeName ++ "(" ++ braced ++ ")"
    else braced

/-- An entry as a mapping of this type shows it. -/
def entryLiteral (typeName key value : Text) : Text :=
  if typeName = "OrderedDict" then "(" ++ key ++ ", " ++ value ++ ")" else key ++ ": " ++ value

mutual

/-- A value as it is typed in. -/
def literal : Value → Text
  | .null => "None"
  | .bool b => if b then "True" else "False"
  | .text t => Text.quoted t
  | .int i => Text.ofInt i
  | .float x => x.write .literal
  | .fraction q => "Fraction(" ++ Text.ofInt q.num ++ ", " ++ Text.ofNat q.den ++ ")"
  | .decimal d => "Decimal('" ++ d.text ++ "')"
  | .complex z => z.text
  | .bytes b => Text.quotedBytes b
  | .list items => "[" ++ commaJoined (literals items) ++ "]"
  | .tuple [item] => "(" ++ literal item ++ ",)"
  | .tuple items => "(" ++ commaJoined (literals items) ++ ")"
  | .mapping name entries => mappingLiteral name (commaJoined (entryLiterals name entries))
  | .function name _ => "<function " ++ name ++ ">"
  | .type name _ => typeText name
  | .object _ shown _ _ => shown

def literals : List Value → List Text
  | [] => []
  | item :: rest => literal item :: literals rest

def entryLiterals (typeName : Text) : List (Value × Value) → List Text
  | [] => []
  | (key, value) :: rest =>
    entryLiteral typeName (literal key) (literal value) :: entryLiterals typeName rest

end

/-- A value as it is reported: a text or number by its own text, a read-only view by what it is a
view of, anything else as it is typed in. -/
def display : Value → Text
  | .text t => t
  | .fraction q => ratText q
  | .decimal d => d.text
  | .mapping name entries =>
    (Value.mapping (if name = "mappingproxy" then "dict" else name) entries).literal
  | v => v.literal

/-- The natural text of a number, in which what is not finite has its full name. -/
def numberText : Value → Text
  | .float x => x.text
  | v => v.display

end Value

end BraceTemplate
