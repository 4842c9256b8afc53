import BraceTemplate.Address.Mode
import BraceTemplate.Template.Basic
import BraceTemplate.Value.Decimal
import BraceTemplate.Value.Key
import BraceTemplate.Value.Kind
import BraceTemplate.Value.Text

/-!
# What can go wrong

A fault is a defect of a template, of its arguments, or of a code table's extension. It has a cause,
from which its kind and its message follow, and it may know the placeholder that it concerns. A
failure is a fault or one of the few conditions that are not reported as faults.
-/

namespace BraceTemplate

/-! ## Kinds -/

inductive FaultKind where
  | specification
  | address
  | type
  | value
  | sign
  | code
  | missingArguments
  | extraArguments
deriving DecidableEq

namespace FaultKind

/-- The name under which a kind is reported. -/
def name : FaultKind → Text
  | .specification => "FormatSyntaxError"
  | .address => "FormatAddressError"
  | .type => "FormatTypeError"
  | .value => "FormatValueError"
  | .sign => "FormatSignError"
  | .code => "FormatCodeError"
  | .missingArguments => "FormatMissingArguments"
  | .extraArguments => "FormatExtraArguments"

end FaultKind

/-! ## Causes -/

inductive Cause where
  /-- The padding is none, or none that the code takes. -/
  | invalidPadding (padding : Text) (code : Option Text)
  | plusOnNegative (padding : Text)
  | notIntegral (value : Value) (code : Option Text)
  | notReal (value : Value)
  | notNumeric (value : Value)
  | codePointOutOfRange (point : Int)
  | unknownCode (code : Value) (spec : Option Text)
  | badCodeName (name : Value)
  | notCallable (name : Value)
  | mixedModes (first other : AddressMode) (raw : Text)
  | mixedArguments
  | namedNeedKeys (raw : Text)
  | notOneMapping
  | pathNotFound (path : Text)
  | indexOutOfRange (index count : Nat)
  | noPlaceholders (arguments : Nat)
  | countMismatch (placeholders arguments : Nat)
  /-- A cause of a renderer's own. -/
  | custom (kind : FaultKind) (message : Text) (code : Option Value) (spec : Option Text)

namespace Cause

def kind : Cause → FaultKind
  | .invalidPadding _ _ => .specification
  | .plusOnNegative _ => .sign
  | .notIntegral _ _ | .notReal _ | .notNumeric _ => .type
  | .codePointOutOfRange _ => .value
  | .unknownCode _ _ | .badCodeName _ | .notCallable _ => .code
  | .mixedModes _ _ _ | .mixedArguments | .namedNeedKeys _ | .notOneMapping
  | .pathNotFound _ | .indexOutOfRange _ _ => .address
  | .noPlaceholders _ => .extraArguments
  | .countMismatch placeholders arguments =>
    if arguments < placeholders then .missingArguments else .extraArguments
  | .custom kind _ _ _ => kind

/-- A value with its type, as messages quote it. -/
def quotedValue (v : Value) : Text :=
  "'" ++ v.stringify ++ "' of type '" ++ v.typeName ++ "'"

/-- An empty code is not mentioned. -/
def codeDetail (before after : Text) : Option Text → Text
  | none => []
  | some code => if code.isEmpty then [] else before ++ code ++ after

def message : Cause → Text
  | .invalidPadding padding code =>
    "Invalid specification '" ++ padding ++ "'" ++ codeDetail " for '" "' format code" code
  | .plusOnNegative padding =>
    "Invalid specification '" ++ padding ++ "' for negative number"
  | .notIntegral value code =>
    "Got " ++ quotedValue value ++ " but expected an integer" ++ codeDetail " for code '" "'" code
  | .notReal value => "Can only format numbers as fixed-point, got " ++ quotedValue value
  | .notNumeric value => "Can only format numbers with '%' code, got " ++ quotedValue value
  | .codePointOutOfRange point =>
    "Character code " ++ Text.ofInt point ++ " out of range for code 'c'"
  | .unknownCode code spec => "Unknown format specification '" ++ spec.getD code.display ++ "'"
  | .badCodeName name =>
    "Format code `" ++ name.display ++ "` must be a single non-digit character."
  | .notCallable name => "Renderer for format code `" ++ name.display ++ "` is not callable."
  | .mixedModes first other raw =>
    "Cannot mix " ++ first.name ++ " and " ++ other.name ++
      " placeholders in one template, found `" ++ raw ++ "`."
  | .mixedArguments => "Cannot mix positional and keyword arguments in one call."
  | .namedNeedKeys raw => "Keyword arguments require keyed placeholders, found `" ++ raw ++ "`."
  | .notOneMapping => "Using keyword formatting, expected only one argument of type mapping."
  | .pathNotFound path => "Key/path '" ++ path ++ "' not in dict"
  | .indexOutOfRange index count =>
    "Positional index " ++ Text.ofNat index ++ " out of range for " ++ Text.ofNat count ++
      " argument(s)."
  | .noPlaceholders arguments =>
    "Template has no placeholders but " ++ Text.ofNat arguments ++ " argument(s) were given."
  | .countMismatch placeholders arguments =>
    "Number of placeholders and arguments differ -> placeholders " ++ Text.ofNat placeholders ++
      ", arguments " ++ Text.ofNat arguments
  | .custom _ message _ _ => message

/-- The code that was asked for. -/
def code? : Cause → Option Value
  | .invalidPadding _ code | .notIntegral _ code => code.map .text
  | .notNumeric _ => some (.text "%")
  | .codePointOutOfRange _ => some (.text "c")
  | .unknownCode code _ => some code
  | .badCodeName name | .notCallable name => some name
  | .custom _ _ code _ => code
  | _ => none

/-- The specification that was asked for. -/
def spec? : Cause → Option Text
  | .invalidPadding padding _ | .plusOnNegative padding => some padding
  | .unknownCode _ spec => spec
  | .custom _ _ _ spec => spec
  | _ => none

/-- How many placeholders there are and how many arguments, where these do not pair up. -/
def counts? : Cause → Option (Nat × Nat)
  | .noPlaceholders arguments => some (0, arguments)
  | .countMismatch placeholders arguments => some (placeholders, arguments)
  | .custom .missingArguments _ _ _ | .custom .extraArguments _ _ _ => some (0, 0)
  | _ => none

end Cause

/-! ## Faults -/

/-- A cause with what is known of the placeholder it concerns. -/
structure Fault where
  cause : Cause
  token : Option Text
  line : Option Int
  column : Option Int

namespace Fault

def kind (f : Fault) : FaultKind := f.cause.kind

def message (f : Fault) : Text := f.cause.message

/-- A cause that concerns no known placeholder. -/
def ofCause (cause : Cause) : Fault := ⟨cause, none, none, none⟩

/-- A cause that concerns the placeholder at a site, if there is one. -/
def ofCauseAt (cause : Cause) : Option Site → Fault
  | none => ofCause cause
  | some site => ⟨cause, some site.token, some site.line, some site.column⟩

/-- Fills in what the fault does not say of its place. An empty token or a zero says nothing. -/
def locate (site : Site) (f : Fault) : Fault where
  cause := f.cause
  token := if f.token.all List.isEmpty then some site.token else f.token
  line := if f.line.all (· == 0) then some site.line else f.line
  column := if f.column.all (· == 0) then some site.column else f.column

end Fault

/-- The reasons for which there may be no answer. -/
inductive Failure where
  | fault (f : Fault)
  /-- The template is a value of another type. -/
  | templateNotText (typeName : Text)
  /-- A fraction is beyond the range of floating-point numbers. -/
  | quotientTooLarge
  | unknownBase (base : Int)
  | decimalSignal (signal : DecimalSignal)
  /-- So few or so many places are asked for that decimal arithmetic has no such precision. -/
  | noPrecision
  /-- The precision is beyond the range of machine integers. -/
  | widePrecision
  /-- A value stands for no decimal number. -/
  | notDecimal (defect : DecimalDefect)
  /-- A value cannot be a key. -/
  | notKey (defect : KeyDefect)
  /-- Values of the first type do not come before or after values of the second. -/
  | notOrdered (typeName otherTypeName : Text)
  /-- What a code table holds under a code cannot be called. -/
  | handlerNotCallable
  | noDefaultCode (kind : Kind)
  | inconsistent (message : Text)

namespace Failure

/-- The fault of a cause that concerns no known placeholder. -/
def ofCause (cause : Cause) : Failure := .fault (.ofCause cause)

def message : Failure → Text
  | .fault f => f.message
  | .templateNotText typeName => "Template must be a string, got `" ++ typeName ++ "`."
  | .quotientTooLarge => "integer division result too large for a float"
  | .unknownBase base => Text.ofInt base
  | .decimalSignal signal => signal.message
  | .noPrecision => "valid range for prec is [1, MAX_PREC]"
  | .widePrecision => "Python int too large to convert to C ssize_t"
  | .notDecimal defect => defect.message
  | .notKey defect => defect.message
  | .notOrdered typeName otherTypeName =>
    "'<' not supported between instances of '" ++ typeName ++ "' and '" ++ otherTypeName ++ "'"
  | .handlerNotCallable => "'str' object is not callable"
  | .noDefaultCode kind => kind.name
  | .inconsistent message => message

/-- A fault without a place gets this one. -/
def locate (site : Site) : Failure → Failure
  | .fault f => .fault (f.locate site)
  | failure => failure

end Failure

end BraceTemplate
