import BraceTemplate.Json.Token
import BraceTemplate.Value.Key

/-!
# Reading JSON

A machine that takes token after token. Its state says what has to follow, and which arrays and
objects are still open. The first token that does not fit decides what is wrong with the text.
-/

namespace BraceTemplate.Json

/-- An array or object that is still open. -/
inductive Frame where
  /-- The items so far, the last one first. -/
  | array (items : List Value)
  /-- The entries so far, the last one first, and the name whose value is being read. -/
  | object (entries : List (Value × Value)) (name : Text)

inductive State where
  /-- A value has to follow. -/
  | value (frames : List Frame)
  /-- A value or the end of the array that has just begun. -/
  | item (frames : List Frame)
  /-- A name, or at the beginning of the object also its end. -/
  | name (isFirst : Bool) (entries : List (Value × Value)) (frames : List Frame)
  /-- A colon behind a name. -/
  | colon (entries : List (Value × Value)) (name : Text) (frames : List Frame)
  /-- A value is complete. -/
  | complete (v : Value) (frames : List Frame)

/-- The object of these entries, the last of which comes first. -/
def objectOf (entries : List (Value × Value)) : Value :=
  .mappingOf "dict" entries.reverse

/-- A token where a value has to stand. -/
def beginValue (frames : List Frame) : Token → Except Defect State
  | .scalar v => .ok (.complete v frames)
  | .string t => .ok (.complete (.text t) frames)
  | .openArray => .ok (.item frames)
  | .openObject => .ok (.name true [] frames)
  | .broken defect => .error defect
  | _ => .error .valueExpected

/-- A token behind a complete value. -/
def afterValue (v : Value) : List Frame → Token → Except Defect State
  | [], _ => .error .extraData
  | .array items :: outer, .comma => .ok (.value (.array (v :: items) :: outer))
  | .array items :: outer, .closeArray => .ok (.complete (.list (v :: items).reverse) outer)
  | .object entries name :: outer, .comma => .ok (.name false ((.text name, v) :: entries) outer)
  | .object entries name :: outer, .closeObject =>
    .ok (.complete (objectOf ((.text name, v) :: entries)) outer)
  | _ :: _, _ => .error .commaExpected

def step : State → Token → Except Defect State
  | .value frames, token => beginValue frames token
  | .item frames, .closeArray => .ok (.complete (.list []) frames)
  | .item frames, token => beginValue (.array [] :: frames) token
  | .name _ entries frames, .string name => .ok (.colon entries name frames)
  | .name true _ frames, .closeObject => .ok (.complete (objectOf []) frames)
  | .name _ _ _, .broken defect => .error defect
  | .name _ _ _, _ => .error .nameExpected
  | .colon entries name frames, .colon => .ok (.value (.object entries name :: frames))
  | .colon _ _ _, _ => .error .colonExpected
  | .complete v frames, token => afterValue v frames token

/-- What the end of the text means. -/
def finish : State → Except Defect Value
  | .value _ | .item _ => .error .valueExpected
  | .name _ _ _ => .error .nameExpected
  | .colon _ _ _ => .error .colonExpected
  | .complete v [] => .ok v
  | .complete _ (_ :: _) => .error .commaExpected

/-- The value that a JSON text stands for. -/
def read (t : Text) : Except Defect Value :=
  if t.head? = some ('\ufeff' : CodePoint) then .error .byteOrderMark
  else (tokens t).foldlM step (.value []) >>= finish

end BraceTemplate.Json
