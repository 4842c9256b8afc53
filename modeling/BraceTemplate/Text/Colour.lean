import BraceTemplate.Text.Basic

/-!
# Colour codes

A colour code is an escape character, a bracket, digits and semicolons, and an `m`; it is one of the
control sequences of terminals. Text is stripped of its colour codes, or of all control sequences,
in one pass from left to right.
-/

namespace BraceTemplate.Text

def escape : CodePoint := '\x1b'

/-- The colour code with these parameters. -/
def colour (parameters : Text) : Text :=
  escape :: '[' :: parameters ++ (['m'] : Text)

/-- The code that ends all colours. -/
def plain : Text := colour "0"

/-- A text in a colour. -/
def coloured (parameters t : Text) : Text :=
  colour parameters ++ t ++ plain

/-- The characters that a sort of control sequence is made of. Behind an escape character and a
bracket come parameters, then intermediate characters, then one final character. -/
structure SequenceForm where
  isParameter : CodePoint → Bool
  isIntermediate : CodePoint → Bool
  isFinal : CodePoint → Bool

namespace SequenceForm

/-- What follows the parameters and intermediate characters that the text starts with. -/
def dropBody (form : SequenceForm) (t : Text) : Text :=
  (t.dropWhile form.isParameter).dropWhile form.isIntermediate

/-- What follows the control sequence that the text starts with. -/
def dropSequence? (form : SequenceForm) : Text → Option Text
  | '\x1b' :: '[' :: rest =>
    match form.dropBody rest with
    | c :: after => if form.isFinal c then some after else none
    | [] => none
  | _ => none

theorem length_dropBody_le (form : SequenceForm) (t : Text) :
    (form.dropBody t).length ≤ t.length :=
  Nat.le_trans (List.dropWhile_suffix form.isIntermediate).length_le
    (List.dropWhile_suffix form.isParameter).length_le

theorem length_lt_of_dropSequence? {form : SequenceForm} {t after : Text}
    (h : form.dropSequence? t = some after) : after.length < t.length := by
  unfold dropSequence? at h
  split at h
  · rename_i rest
    have hle := form.length_dropBody_le rest
    split at h
    · rename_i hd
      split at h
      · simp only [Option.some.injEq] at h
        subst h
        simp only [hd, List.length_cons] at hle ⊢
        omega
      · simp at h
    · simp at h
  · simp at h

/-- The text without its control sequences of this form. -/
def strip (form : SequenceForm) (t : Text) : Text :=
  match t with
  | [] => []
  | c :: rest =>
    match _h : form.dropSequence? (c :: rest) with
    | some after => form.strip after
    | none => c :: form.strip rest
termination_by t.length
decreasing_by
  · exact length_lt_of_dropSequence? ‹_›
  · simp

/-- Colour codes: digits and semicolons, and an `m`. -/
def ofColour : SequenceForm where
  isParameter c := c.isDigit || c == ';'
  isIntermediate _ := false
  isFinal c := c == 'm'

/-- All control sequences: the three parts are the ASCII characters from `0` to `?`, from space to
`/`, and from `@` to `~`. -/
def ofControl : SequenceForm where
  isParameter c := decide ('0' ≤ c) && decide (c ≤ '?')
  isIntermediate c := decide (' ' ≤ c) && decide (c ≤ '/')
  isFinal c := decide ('@' ≤ c) && decide (c ≤ '~')

end SequenceForm

/-- The text without its colour codes. -/
def stripColours (t : Text) : Text :=
  SequenceForm.ofColour.strip t

/-- The text without its control sequences of any sort. -/
def stripControls (t : Text) : Text :=
  SequenceForm.ofControl.strip t

end BraceTemplate.Text
