import BraceTemplate.Address.Path

/-!
# Binding placeholders to arguments

All placeholders of a template share one addressing mode. Anonymous ones take the arguments one by
one and use them all, positional ones take them by index, and keyed ones follow a path into the one
mapping that is given, or into the arguments given by name.
-/

namespace BraceTemplate

/-- A part of a template whose placeholders have their values. -/
inductive BoundSegment where
  | literal (t : Text)
  | bound (p : Placeholder) (value : Value)

def Placeholder.mode (p : Placeholder) : AddressMode :=
  .ofAddress p.address

/-- The mode that the placeholders share; none without placeholders. The first one that differs from
the first of all is at fault. -/
def commonMode : List Placeholder → Except Fault (Option AddressMode)
  | [] => .ok none
  | first :: rest =>
    match rest.find? (·.mode != first.mode) with
    | some p => .error (.ofCauseAt (.mixedModes first.mode p.mode p.raw) p.site)
    | none => .ok (some first.mode)

/-- The arguments to choose from: the given ones, or the mapping of those given by name, which only
keyed placeholders can use. -/
def suppliedArguments (first? : Option Placeholder) (args : List Value)
    (named : List (Text × Value)) : Except Fault (List Value) :=
  if named.isEmpty then .ok args
  else if !args.isEmpty then .error (.ofCause .mixedArguments)
  else match first? with
    | none => .ok [.ofNamed named]
    | some first =>
      if first.mode = .keyed then .ok [.ofNamed named]
      else .error (.ofCauseAt (.namedNeedKeys first.raw) first.site)

/-- The number of arguments and their type suit the mode. -/
def checkArguments (first : Placeholder) (count : Nat) (args : List Value) : Except Fault Unit :=
  match first.mode, args with
  | .positional, _ => .ok ()
  | .keyed, [.mapping _ _] => .ok ()
  | .keyed, _ => .error (.ofCauseAt .notOneMapping first.site)
  | .anonymous, args =>
    if count = args.length then .ok ()
    else .error (.ofCause (.countMismatch count args.length))

/-- The value of the placeholder that `index` others precede. -/
def argumentOf (args : List Value) (index : Nat) (p : Placeholder) : Except Fault Value :=
  match p.mode with
  | .anonymous =>
    match args[index]? with
    | some value => .ok value
    | none => .error (.ofCause (.countMismatch (index + 1) args.length))
  | .positional =>
    match args[Text.toNat p.address]? with
    | some value => .ok value
    | none => .error (.ofCauseAt (.indexOutOfRange (Text.toNat p.address) args.length) p.site)
  | .keyed =>
    match args.head? with
    | some root => root.resolve p.address p.site
    | none => .error (.ofCauseAt .notOneMapping p.site)

/-- Gives every placeholder its value; `index` placeholders come before. -/
def bindFrom (args : List Value) : Nat → List Segment → Except Fault (List BoundSegment)
  | _, [] => .ok []
  | index, .literal t :: rest => do
    let others ← bindFrom args index rest
    return .literal t :: others
  | index, .field p :: rest => do
    let value ← argumentOf args index p
    let others ← bindFrom args (index + 1) rest
    return .bound p value :: others

/-- Pairs every placeholder with the argument that it addresses. -/
def link (segments : List Segment) (args : List Value) (named : List (Text × Value)) :
    Except Fault (List BoundSegment) := do
  let fields := placeholders segments
  let _ ← commonMode fields
  let args ← suppliedArguments fields.head? args named
  match fields with
  | [] =>
    if args.isEmpty then bindFrom args 0 segments
    else .error (.ofCause (.noPlaceholders args.length))
  | first :: _ =>
    checkArguments first fields.length args
    bindFrom args 0 segments

end BraceTemplate
