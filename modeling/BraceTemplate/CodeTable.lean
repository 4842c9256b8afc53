import BraceTemplate.Render.Builtin
import BraceTemplate.Value.Key

/-!
# Code tables

A code table says which renderer a format code stands for: directly or through an alias. It also
names a code for each kind of value. Extending a table layers further codes over it; the table
itself stays as it is. A table is consistent if all its codes are proper names with renderers behind
them, and its aliases and default codes name codes that it has.
-/

namespace BraceTemplate

/-! ## Code names -/

/-- Characters that no code can be, since they structure templates and specifications. -/
def structuralChars : List CodePoint :=
  [openBrace, closeBrace, ':', '.']

/-- A code is one character, not a digit of any script, and not structural. -/
def isCodeText (t : Text) : Bool :=
  match t with
  | [c] => !isDigitLike c && c ∉ structuralChars
  | _ => false

def isCodeName : Value → Bool
  | .text t => isCodeText t
  | _ => false

/-! ## Tables -/

/-- What is stored under a code. Only a renderer can be called. -/
inductive Handler where
  | renderer (r : Renderer)
  /-- A text in the renderer's place. -/
  | inert
  /-- Nothing: the code is listed, but there is no way to render it. -/
  | vacant

namespace Handler

def renderer? : Handler → Option Renderer
  | .renderer r => some r
  | _ => none

/-- What is found under the code. -/
def toRenderer? : Handler → Option Renderer
  | .renderer r => some r
  | .inert => some fun _ _ => .error .handlerNotCallable
  | .vacant => none

end Handler

/-- Names are values, of which only texts of one character are proper codes. -/
structure CodeTable where
  handlers : List (Value × Handler)
  aliases : List (Value × Value)
  defaults : List (Kind × Value)

/-- Only a key can be looked up. -/
def Value.checkKey (v : Value) : Except Failure Unit :=
  match v.keyDefect? with
  | none => .ok ()
  | some defect => .error (.notKey defect)

namespace CodeTable

/-- What is stored directly under a code. -/
def handler? (table : CodeTable) (code : Value) : Option Handler :=
  Entries.find? (Value.sameKey · code) table.handlers

/-- The code that an alias stands for; any other code stands for itself. -/
def target (table : CodeTable) (code : Value) : Value :=
  (Entries.find? (Value.sameKey · code) table.aliases).getD code

/-- Something is stored directly under a code. -/
def holds (table : CodeTable) (code : Value) : Except Failure Bool := do
  code.checkKey
  return (table.handler? code).isSome

/-- The code, or what it is an alias of, is in the table. -/
def contains (table : CodeTable) (code : Value) : Except Failure Bool :=
  table.holds (table.target code)

/-- The renderer that a code stands for. The fault names the specification if there is one. -/
def renderer (table : CodeTable) (code : Value) (spec : Option Text) :
    Except Failure Renderer := do
  (table.target code).checkKey
  match (table.handler? (table.target code)).bind Handler.toRenderer? with
  | some r => return r
  | none => throw (.ofCause (.unknownCode code spec))

/-- The code that shows a value by default. -/
def defaultCode (table : CodeTable) (v : Value) : Except Failure Value :=
  match v.kind? with
  | none => .error .quotientTooLarge
  | some kind =>
    match Entries.find? (· == kind) table.defaults with
    | some code => .ok code
    | none => .error (.noDefaultCode kind)

/-- Puts a name into an ascending list without repetitions. -/
def insertAscending (name : Value) : List Value → Except Failure (List Value)
  | [] => .ok [name]
  | other :: rest =>
    if Value.sameKey other name then .ok (other :: rest)
    else
      match other.precedes? name with
      | some true => (insertAscending name rest).map (other :: ·)
      | some false => .ok (name :: other :: rest)
      | none => .error (.notOrdered other.fullTypeName name.fullTypeName)

/-- All codes and aliases, ascending and without repetitions. Texts ascend by code point. -/
def codes (table : CodeTable) : Except Failure (List Value) :=
  (table.handlers.map (·.1) ++ table.aliases.map (·.1)).foldrM insertAscending []

/-! ## Consistency -/

def checkHandler (entry : Value × Handler) : Except Failure Unit :=
  if !isCodeName entry.1 then .error (.inconsistent (Cause.badCodeName entry.1).message)
  else if entry.2.renderer?.isNone then .error (.inconsistent [])
  else .ok ()

def checkAlias (table : CodeTable) (entry : Value × Value) : Except Failure Unit := do
  let known ← if isCodeName entry.1 then table.holds entry.2 else pure false
  if known then return
  throw (.inconsistent ("Alias `" ++ entry.1.display ++ "` must name a known format code."))

def checkDefault (table : CodeTable) (entry : Kind × Value) : Except Failure Unit := do
  if ← table.holds entry.2 then return
  throw (.inconsistent [])

/-- Checks the codes in order, then the aliases, then the default codes. -/
def ensureConsistent (table : CodeTable) : Except Failure Unit := do
  table.handlers.forM checkHandler
  table.aliases.forM table.checkAlias
  table.defaults.forM table.checkDefault

/-! ## Extension -/

/-- The first code that cannot be added, if there is one: a bad name, or nothing to call. -/
def checkLayer (entry : Value × Handler) : Except Failure Unit :=
  if !isCodeName entry.1 then .error (.ofCause (.badCodeName entry.1))
  else if entry.2.renderer?.isNone then .error (.ofCause (.notCallable entry.1))
  else .ok ()

/-- The table with further codes over its own. An alias that has become a code is dropped. -/
def withLayer (table : CodeTable) (layer : List (Value × Handler)) : CodeTable where
  handlers := Entries.overlay Value.sameKey table.handlers layer
  aliases := table.aliases.filter fun entry =>
    (Entries.find? (Value.sameKey · entry.1) layer).isNone
  defaults := table.defaults

/-- Layers codes over a table, of which a later one replaces an earlier one of the same name. -/
def extend (table : CodeTable) (codes : List (Value × Handler)) : Except Failure CodeTable := do
  codes.forM (·.1.checkKey)
  let layer := Entries.ofList Value.sameKey codes
  layer.forM checkLayer
  let extended := table.withLayer layer
  extended.ensureConsistent
  return extended

/-! ## The builtin table -/

/-- Texts and truth values are shown as text, whole numbers as integers, other real numbers with
fixed places, and all else as text. -/
def builtinDefaults : List (Kind × Value) :=
  [(.textLike, .text "s"), (.whole, .text "d"), (.fractional, .text "f"), (.other, .text "s")]

/-- The builtin codes. `F` is an alias of `f`. -/
def builtin : CodeTable where
  handlers := Render.builtins.map fun (code, r) => (.text code, .renderer r)
  aliases := [(.text "F", .text "f")]
  defaults := builtinDefaults

/-- A table of codes; of equal names a later one replaces an earlier one. -/
def ofCodes (codes : List (Value × Handler)) (aliases : List (Value × Value))
    (defaults : List (Kind × Value)) : Except Failure CodeTable := do
  codes.forM (·.1.checkKey)
  aliases.forM (·.1.checkKey)
  return {
    handlers := Entries.ofList Value.sameKey codes
    aliases := Entries.ofList Value.sameKey aliases
    defaults := Entries.ofList (· == ·) defaults }

end CodeTable

end BraceTemplate
