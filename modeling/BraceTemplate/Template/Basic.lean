import BraceTemplate.Text.Basic

/-!
# Segments of a template

A template is a sequence of literal texts and placeholders. A placeholder is an address and, behind
a colon, a specification, between braces; it knows where its opening brace stands.
-/

namespace BraceTemplate

/-- A place in a text, both parts counted from one. -/
structure Position where
  line : Nat
  column : Nat
deriving DecidableEq

namespace Position

def start : Position := ⟨1, 1⟩

/-- The place behind a character. -/
def next (p : Position) (c : CodePoint) : Position :=
  if c = '\n' then ⟨p.line + 1, 1⟩ else ⟨p.line, p.column + 1⟩

/-- The place behind a text. -/
def advance (p : Position) (t : Text) : Position :=
  t.foldl next p

@[simp] theorem advance_nil (p : Position) : p.advance [] = p := rfl

theorem advance_append (p : Position) (s t : Text) :
    p.advance (s ++ t) = (p.advance s).advance t := by
  simp [advance]

end Position

/-- An argument to be shown: its address and, if there is a colon, its specification. -/
structure Placeholder where
  address : Text
  spec : Option Text
  position : Position
deriving DecidableEq

namespace Placeholder

/-- What stands between the braces. -/
def body (p : Placeholder) : Text :=
  match p.spec with
  | none => p.address
  | some spec => p.address ++ (':' : CodePoint) :: spec

/-- The placeholder as it stands in the template. -/
def raw (p : Placeholder) : Text :=
  openBrace :: p.body ++ [closeBrace]

/-- The specification of a body: what follows its first colon. -/
def specOf (body : Text) : Option Text :=
  match body.dropWhile (· != (':' : CodePoint)) with
  | [] => none
  | _ :: spec => some spec

/-- The placeholder with this body. -/
def ofBody (body : Text) (position : Position) : Placeholder where
  address := body.takeWhile (· != (':' : CodePoint))
  spec := specOf body
  position := position

theorem body_ofBody (body : Text) (position : Position) : (ofBody body position).body = body := by
  have hsplit := List.takeWhile_append_dropWhile (p := (· != (':' : CodePoint))) (l := body)
  cases h : body.dropWhile (· != (':' : CodePoint)) with
  | nil =>
    rw [h, List.append_nil] at hsplit
    simp [ofBody, Placeholder.body, specOf, h, hsplit]
  | cons c spec =>
    have hc : c = ':' := by
      have hhead := List.head?_dropWhile_not (· != (':' : CodePoint)) body
      simpa [h] using hhead
    subst hc
    rw [h] at hsplit
    simp [ofBody, Placeholder.body, specOf, h, hsplit]

end Placeholder

/-- Where a placeholder is found: its text and its place. -/
structure Site where
  token : Text
  line : Int
  column : Int
deriving DecidableEq

def Placeholder.site (p : Placeholder) : Site :=
  ⟨p.raw, p.position.line, p.position.column⟩

/-- A part of a template. -/
inductive Segment where
  | literal (t : Text)
  | field (p : Placeholder)
deriving DecidableEq

namespace Segment

/-- The part as it stands in the template. -/
def raw : Segment → Text
  | .literal t => t
  | .field p => p.raw

def placeholder? : Segment → Option Placeholder
  | .literal _ => none
  | .field p => some p

end Segment

/-- The placeholders of a template, in order. -/
def placeholders (segments : List Segment) : List Placeholder :=
  segments.filterMap Segment.placeholder?

/-- The template that consists of these parts. -/
def unscan (segments : List Segment) : Text :=
  segments.flatMap Segment.raw

end BraceTemplate
