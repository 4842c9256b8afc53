import BraceTemplate.Entries
import BraceTemplate.Number.Complex
import BraceTemplate.Number.DecimalNumber

/-!
# Values

What a template can be given to show: texts, truth values, six sorts of numbers, bytes, sequences,
mappings, functions, types, and objects with attributes.
-/

namespace BraceTemplate

inductive Value where
  | null
  | bool (b : Bool)
  | text (t : Text)
  | int (i : Int)
  | float (x : Binary64)
  | fraction (q : Rat)
  | decimal (d : DecimalNumber)
  | complex (z : ComplexNumber)
  | bytes (b : List UInt8)
  | list (items : List Value)
  | tuple (items : List Value)
  /-- Keys in order; `typeName` is the mapping's own name for its type. -/
  | mapping (typeName : Text) (entries : List (Value × Value))
  | function (name : Text) (attributes : List (Text × Value))
  /-- A type itself, with the attributes that it defines. -/
  | type (name : Text) (attributes : List (Text × Value))
  /-- `shown` is the text that the object gives of itself. Only its own attributes can be reached
  by a path. -/
  | object (typeName shown : Text) (own inherited : List (Text × Value))

namespace Value

/-- The name of a value's type. -/
def typeName : Value → Text
  | .null => "NoneType"
  | .bool _ => "bool"
  | .text _ => "str"
  | .int _ => "int"
  | .float _ => "float"
  | .fraction _ => "Fraction"
  | .decimal _ => "Decimal"
  | .complex _ => "complex"
  | .bytes _ => "bytes"
  | .list _ => "list"
  | .tuple _ => "tuple"
  | .mapping name _ => name
  | .function _ _ => "function"
  | .type _ _ => "type"
  | .object name _ _ _ => name

/-- The name of a value's type together with the module that the type belongs to, where messages
give both. -/
def fullTypeName (v : Value) : Text :=
  match v with
  | .decimal _ => "decimal.Decimal"
  | .mapping name _ => if name = "OrderedDict" then "collections.OrderedDict" else name
  | v => v.typeName

def isNull : Value → Bool
  | .null => true
  | _ => false

/-- The integer, if the value is one; a truth value counts as one or zero. -/
def integer? : Value → Option Int
  | .bool b => some (if b then 1 else 0)
  | .int i => some i
  | _ => none

/-- The items of a sequence. -/
def items? : Value → Option (List Value)
  | .list items | .tuple items => some items
  | _ => none

/-- The attributes that belong to a value itself. -/
def ownAttributes : Value → List (Text × Value)
  | .function _ attributes | .type _ attributes => attributes
  | .object _ _ own _ => own
  | _ => []

/-- Numbers of any sort; a truth value is none. -/
def isNumber : Value → Bool
  | .int _ | .float _ | .fraction _ | .decimal _ | .complex _ => true
  | _ => false

end Value

end BraceTemplate
