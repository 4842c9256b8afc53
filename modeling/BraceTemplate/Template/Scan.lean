import BraceTemplate.Template.Basic

/-!
# Scanning a template

An opening brace begins a placeholder if a closing brace comes anywhere behind it, and the
placeholder ends at the first one. All other text is literal, stray braces included. The main
statement is that nothing is lost: the parts, one after the other, are the template again.
-/

namespace BraceTemplate

/-- A literal part, unless there is no text. -/
def literalSegment (t : Text) : List Segment :=
  if t.isEmpty then [] else [.literal t]

theorem unscan_literalSegment (t : Text) : unscan (literalSegment t) = t := by
  cases t <;> simp [literalSegment, unscan, Segment.raw]

theorem length_drop_close_lt {t rest : Text} {c : CodePoint}
    (h : t.dropWhile (· != openBrace) = c :: rest) :
    ((rest.dropWhile (· != closeBrace)).drop 1).length < t.length := by
  have h1 := (List.dropWhile_suffix (· != openBrace) (l := t)).length_le
  have h2 := (List.dropWhile_suffix (· != closeBrace) (l := rest)).length_le
  simp only [h, List.length_cons] at h1
  simp only [List.length_drop]
  omega

/-- The parts of a text that starts at the given place. -/
def scanFrom (start : Position) (t : Text) : List Segment :=
  match _h : t.dropWhile (· != openBrace) with
  | [] => literalSegment t
  | _ :: rest =>
    if closeBrace ∈ rest then
      let before := t.takeWhile (· != openBrace)
      let opening := start.advance before
      let p := Placeholder.ofBody (rest.takeWhile (· != closeBrace)) opening
      literalSegment before ++
        .field p :: scanFrom (opening.advance p.raw) ((rest.dropWhile (· != closeBrace)).drop 1)
    else literalSegment t
termination_by t.length
decreasing_by exact length_drop_close_lt ‹_›

/-- The literal texts and placeholders of a template, in order. -/
def scan (template : Text) : List Segment :=
  scanFrom .start template

theorem unscan_scanFrom (start : Position) (t : Text) : unscan (scanFrom start t) = t := by
  fun_induction scanFrom start t with
  | case1 => exact unscan_literalSegment _
  | case2 start t c rest hd hclose before opening p ih =>
    have hc := dropWhile_ne_eq_cons hd
    have hsplit := List.takeWhile_append_dropWhile (p := (· != openBrace)) (l := t)
    have hbody := List.takeWhile_append_dropWhile (p := (· != closeBrace)) (l := rest)
    rw [dropWhile_ne_of_mem hclose] at hbody
    have hraw : p.raw = openBrace :: rest.takeWhile (· != closeBrace) ++ [closeBrace] := by
      simp [p, Placeholder.raw, Placeholder.body_ofBody]
    have hcons : ∀ (s : Segment) (r : List Segment), unscan (s :: r) = s.raw ++ unscan r := by
      intro s r
      simp [unscan]
    have happ : ∀ a b : List Segment, unscan (a ++ b) = unscan a ++ unscan b := by
      intro a b
      simp [unscan]
    rw [happ, unscan_literalSegment, hcons, ih]
    rw [hd, hc] at hsplit
    conv => rhs; rw [← hsplit, ← hbody]
    simp [Segment.raw, hraw, before]
  | case3 => exact unscan_literalSegment _

/-- Scanning loses nothing. -/
theorem unscan_scan (template : Text) : unscan (scan template) = template :=
  unscan_scanFrom _ _

end BraceTemplate
