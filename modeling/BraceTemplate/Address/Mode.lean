import BraceTemplate.Text.Basic

/-!
# Addressing modes

A placeholder says by its address which argument it shows: the next one, the one at an index, or
what lies at a path in a mapping.
-/

namespace BraceTemplate

inductive AddressMode where
  | anonymous
  | positional
  | keyed
deriving DecidableEq

namespace AddressMode

def name : AddressMode → Text
  | .anonymous => "anonymous"
  | .positional => "positional"
  | .keyed => "keyed"

/-- No address is anonymous, ASCII digits are a position, all else is a path. -/
def ofAddress (address : Text) : AddressMode :=
  if address.isEmpty then .anonymous
  else if Text.isNumeral address then .positional
  else .keyed

end AddressMode

end BraceTemplate
