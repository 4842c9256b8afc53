import BraceTemplate.Proofs.Binding.Loop
import BraceTemplate.Proofs.Template.Canonical

/-!
# Templates one behind the other

Where one template is written behind another, a text at the end of the first and one at the start of
the second become one text. Nothing else happens at the seam if every brace that opens in the first
template is closed in it: the segments of the whole are those of both.
-/

namespace BraceTemplate

/-! ## Joining at the seam -/

/-- A segment in front of others. A text and a text that follows it become one. -/
def attach : Segment → List Segment → List Segment
  | .literal s, .literal t :: rest => .literal (s ++ t) :: rest
  | first, rest => first :: rest

/-- Segments behind segments, joined at the seam. -/
def joinSegments (front back : List Segment) : List Segment :=
  front.foldr attach back

theorem unscan_cons (s : Segment) (rest : List Segment) :
    unscan (s :: rest) = s.raw ++ unscan rest := by
  simp [unscan]

theorem unscan_attach (s : Segment) (rest : List Segment) :
    unscan (attach s rest) = s.raw ++ unscan rest := by
  unfold attach
  split
  · simp [unscan_cons, Segment.raw]
  · exact unscan_cons _ _

theorem unscan_joinSegments (front back : List Segment) :
    unscan (joinSegments front back) = unscan front ++ unscan back := by
  induction front with
  | nil => rfl
  | cons s front ih =>
    rw [joinSegments, List.foldr_cons, unscan_attach, unscan_cons, List.append_assoc, ← ih]
    rfl

theorem placeholders_attach (s : Segment) (rest : List Segment) :
    placeholders (attach s rest) = placeholders (s :: rest) := by
  unfold attach
  split <;> rfl

theorem placeholders_joinSegments (front back : List Segment) :
    placeholders (joinSegments front back) = placeholders front ++ placeholders back := by
  induction front with
  | nil => rfl
  | cons s front ih =>
    rw [joinSegments, List.foldr_cons, placeholders_attach]
    cases s with
    | literal t => exact ih
    | field p => exact congrArg (p :: ·) ih

/-! ## The whole is canonical -/

/-- No brace opens in the texts, so none is left to be closed further on. -/
def ClosedSegments (segments : List Segment) : Prop :=
  ∀ t, .literal t ∈ segments → openBrace ∉ t

/-- Behind a text without opening braces, another text opens what it opens alone. -/
theorem opens_append_of_not_mem {s t : Text} (h : openBrace ∉ s) (hopens : Opens (s ++ t)) :
    Opens t := by
  obtain ⟨before, after, heq, hclose⟩ := hopens
  rcases List.append_eq_append_iff.mp heq with ⟨gap, hb, ha⟩ | ⟨gap, hb, ha⟩
  · exact ⟨gap, after, ha, hclose⟩
  · cases gap with
    | nil => exact ⟨[], after, ha.symm, hclose⟩
    | cons c gap =>
      -- the brace would stand in the first text
      cases ha
      exact absurd (show openBrace ∈ s by simp [hb]) h

theorem CanonicalSegments.attach_literal {t : Text} {rest : List Segment}
    (hrest : CanonicalSegments rest) (ht : t ≠ []) (hopen : openBrace ∉ t) :
    CanonicalSegments (attach (.literal t) rest) := by
  match rest, hrest with
  | [], _ => exact .cons_literal ht .nil (by simp) (fun h => absurd h hopen)
  | .field p :: rest, hrest => exact .cons_literal ht hrest (by simp) (fun h => absurd h hopen)
  | .literal u :: rest, hrest =>
    refine .cons_literal (by simp [ht]) hrest.tail ?_ ?_
    · rintro v after rfl
      exact hrest.literals_apart [] u v after rfl
    · intro hmem
      have hu : openBrace ∈ u := (List.mem_append.mp hmem).resolve_left hopen
      obtain ⟨rfl, hopens⟩ := hrest.open_last [] u rest rfl hu
      exact ⟨rfl, fun h => hopens (opens_append_of_not_mem hopen h)⟩

theorem CanonicalSegments.joinSegments {front back : List Segment}
    (hfront : CanonicalSegments front) (hclosed : ClosedSegments front)
    (hback : CanonicalSegments back) : CanonicalSegments (joinSegments front back) := by
  induction front with
  | nil => exact hback
  | cons s front ih =>
    have hrest := ih hfront.tail (fun t ht => hclosed t (List.mem_cons_of_mem _ ht))
    cases s with
    | literal t =>
      exact hrest.attach_literal (hfront.literal_ne_nil t (by simp)) (hclosed t (by simp))
    | field p => exact .cons_field (hfront.proper p (by simp)) hrest

/-- The segments of a template behind a closed one, each at its place. -/
theorem scan_append {first : Text} (h : ClosedSegments (scan first)) (second : Text) :
    scan (first ++ second) = locate .start (joinSegments (scan first) (scan second)) := by
  have hcanonical := (canonical_scanFrom .start first).joinSegments h
    (canonical_scanFrom .start second)
  have hscan := hcanonical.scanFrom_unscan .start
  rwa [unscan_joinSegments, unscan_scanFrom, unscan_scanFrom] at hscan

end BraceTemplate
