import BraceTemplate.Proofs.Template.Seam
import Mathlib.Algebra.GroupWithZero.Nat
import Mathlib.Data.List.DropRight

/-!
# Places of placeholders

The place of a placeholder tells what stands before it in the template: its line is one more than
the number of line feeds there, and its column one more than what follows the last of them. So line
and column can be told from the offset of its opening brace alone, whatever the placeholders and
texts before it contain.
-/

namespace BraceTemplate

namespace Position

theorem advance_concat (p : Position) (t : Text) (c : CodePoint) :
    p.advance (t ++ [c]) = (p.advance t).next c :=
  advance_append p t [c]

theorem line_advance (p : Position) (t : Text) :
    (p.advance t).line = p.line + t.count ('\n' : CodePoint) := by
  induction t using List.reverseRecOn with
  | nil => rfl
  | append_singleton t c ih =>
    rw [advance_concat, next, List.count_append, ← Nat.add_assoc, ← ih]
    split
    · rename_i hfeed
      rw [hfeed]
      rfl
    · rename_i hfeed
      rw [List.count_singleton, beq_eq_false_iff_ne.mpr hfeed]
      rfl

/-- From the start of a line on, the column counts what stands in the last line. -/
theorem column_advance {p : Position} (hp : p.column = 1) (t : Text) :
    (p.advance t).column = (t.rtakeWhile (· != ('\n' : CodePoint))).length + 1 := by
  induction t using List.reverseRecOn with
  | nil => exact hp
  | append_singleton t c ih =>
    rw [advance_concat, next]
    by_cases hfeed : c = '\n'
    · rw [if_pos hfeed, List.rtakeWhile_concat_neg _ _ _ (by simp [hfeed])]
      rfl
    · rw [if_neg hfeed, List.rtakeWhile_concat_pos _ _ _ (by simp [hfeed]), List.length_append]
      exact congrArg (· + 1) ih

end Position

/-! ## Segments in a row -/

theorem unscan_append (a b : List Segment) : unscan (a ++ b) = unscan a ++ unscan b :=
  List.flatMap_append ..

theorem length_unscan (segments : List Segment) :
    (unscan segments).length = (segments.map fun s => s.raw.length).sum :=
  List.length_flatMap ..

theorem locate_append (start : Position) (a b : List Segment) :
    locate start (a ++ b) = locate start a ++ locate (start.advance (unscan a)) b := by
  induction a generalizing start with
  | nil => rfl
  | cons s a ih =>
    rw [List.cons_append, locate, ih, locate, unscan_cons, Position.advance_append,
      List.cons_append]

theorem length_locate (start : Position) (segments : List Segment) :
    (locate start segments).length = segments.length := by
  induction segments generalizing start with
  | nil => rfl
  | cons s rest ih => rw [locate, List.length_cons, ih, List.length_cons]

section Scanned

variable {template : Text} {before after : List Segment} {p : Placeholder}

/-- The template around a placeholder. -/
theorem template_eq_of_scan (h : scan template = before ++ .field p :: after) :
    template = unscan before ++ (p.raw ++ unscan after) := by
  rw [← unscan_scan template, h, unscan_append, unscan_cons]
  rfl

/-- A placeholder is at the place that is behind all that stands before it. -/
theorem position_of_scan (h : scan template = before ++ .field p :: after) :
    p.position = Position.start.advance (unscan before) := by
  have hlocate : locate .start (scan template) = scan template := by
    have hscan := (canonical_scanFrom .start template).scanFrom_unscan .start
    rw [unscan_scanFrom] at hscan
    exact hscan.symm
  rw [h, locate_append, locate] at hlocate
  obtain ⟨-, hrest⟩ := List.append_inj hlocate (length_locate _ _)
  have hfield := (List.cons.inj hrest).1
  simp only [Segment.placedAt, Segment.field.injEq] at hfield
  exact congrArg Placeholder.position hfield.symm

end Scanned

/-! ## Offsets -/

/-- The line of an offset begins at `start`: at the start of the text or right behind a line feed,
and with no further line feed before the offset. -/
structure BeginsLine (t : Text) (offset start : Nat) : Prop where
  start_le : start ≤ offset
  behind_feed : start = 0 ∨ t[start - 1]? = some ('\n' : CodePoint)
  unbroken : ∀ i, start ≤ i → i < offset → t[i]? ≠ some ('\n' : CodePoint)

/-- The line of an offset begins where the characters without a line feed do that stand before the
offset, and nowhere else. -/
theorem beginsLine_iff {head last : Text}
    (hhead : head ≠ [] → head.getLast? = some ('\n' : CodePoint))
    (hlast : ('\n' : CodePoint) ∉ last) (rest : Text) (start : Nat) :
    BeginsLine (head ++ (last ++ rest)) (head.length + last.length) start ↔
      start = head.length := by
  have hfeed : 0 < head.length →
      (head ++ (last ++ rest))[head.length - 1]? = some ('\n' : CodePoint) := by
    intro hpos
    rw [List.getElem?_append_left (by omega), ← List.getLast?_eq_getElem?]
    exact hhead (List.ne_nil_of_length_pos hpos)
  have hunbroken : ∀ i, head.length ≤ i → i < head.length + last.length →
      (head ++ (last ++ rest))[i]? ≠ some ('\n' : CodePoint) := by
    intro i hlow hhigh hi
    rw [List.getElem?_append_right hlow, List.getElem?_append_left (by omega)] at hi
    exact hlast (List.mem_of_getElem? hi)
  constructor
  · intro h
    have hle := h.start_le
    rcases lt_trichotomy start head.length with hlow | heq | hhigh
    · exact absurd (hfeed (by omega)) (h.unbroken _ (by omega) (by omega))
    · exact heq
    · rcases h.behind_feed with hzero | hbehind
      · omega
      · exact absurd hbehind (hunbroken _ (by omega) (by omega))
  · rintro rfl
    refine ⟨Nat.le_add_right _ _, ?_, hunbroken⟩
    exact (Nat.eq_zero_or_pos _).imp_right hfeed

/-- **The place of a placeholder is that of its opening brace.** The brace stands at the offset that
the segments before it add up to. The line is one more than the number of line feeds before that
offset, and the column is counted from the one place where the line of the offset begins. -/
theorem position_eq_of_offset {template : Text} {before after : List Segment} {p : Placeholder}
    (h : scan template = before ++ .field p :: after) :
    let offset := (before.map fun s => s.raw.length).sum
    template[offset]? = some openBrace ∧
      p.position.line = 1 + (template.take offset).count ('\n' : CodePoint) ∧
      ∃ start, (∀ other, BeginsLine template offset other ↔ other = start) ∧
        p.position.column = offset - start + 1 := by
  intro offset
  have htemplate := template_eq_of_scan h
  have hposition := position_of_scan h
  have hoffset : offset = (unscan before).length := (length_unscan before).symm
  -- what stands before the placeholder, cut behind its last line feed
  let head := (unscan before).rdropWhile (· != ('\n' : CodePoint))
  let last := (unscan before).rtakeWhile (· != ('\n' : CodePoint))
  have hsplit : head ++ last = unscan before := List.rdropWhile_append_rtakeWhile
  have hhead : head ≠ [] → head.getLast? = some ('\n' : CodePoint) := by
    intro hne
    have hfeed := List.rdropWhile_last_not _ _ hne
    rw [List.getLast?_eq_some_getLast hne]
    simpa using hfeed
  have hlast : ('\n' : CodePoint) ∉ last := by
    intro hmem
    simpa using List.mem_rtakeWhile_imp hmem
  refine ⟨?_, ?_, head.length, ?_, ?_⟩
  · rw [htemplate, hoffset, List.getElem?_append_right le_rfl, Nat.sub_self]
    rfl
  · rw [hposition, Position.line_advance, htemplate, hoffset, List.take_left]
    rfl
  · intro other
    have hbegins := beginsLine_iff hhead hlast (p.raw ++ unscan after) other
    rwa [← List.append_assoc, hsplit, ← htemplate, ← List.length_append, hsplit, ← hoffset]
      at hbegins
  · have hlength : offset = head.length + last.length := by
      rw [hoffset, ← hsplit, List.length_append]
    rw [hposition, Position.column_advance rfl, hlength, Nat.add_sub_cancel_left]

/-- A placeholder behind one whose specification goes over three lines. -/
theorem position_eq_of_offset_behind_lines :
    scan "a\n\x7bx:\n\n1\x7db\x7b\x7d" =
        [.literal "a\n", .field ⟨"x", some "\n\n1", ⟨2, 1⟩⟩, .literal "b",
          .field ⟨"", none, ⟨4, 4⟩⟩] ∧
      ("a\n\x7bx:\n\n1\x7db\x7b\x7d" : Text)[10]? = some openBrace ∧
      BeginsLine "a\n\x7bx:\n\n1\x7db\x7b\x7d" 10 7 := by
  have hscan : scan "a\n\x7bx:\n\n1\x7db\x7b\x7d" =
      [.literal "a\n", .field ⟨"x", some "\n\n1", ⟨2, 1⟩⟩, .literal "b"] ++
        .field ⟨"", none, ⟨4, 4⟩⟩ :: [] := by decide +kernel
  obtain ⟨hbrace, -, start, hstart, hcolumn⟩ := position_eq_of_offset hscan
  have hle : start ≤ 10 := ((hstart start).mpr rfl).start_le
  obtain rfl : start = 7 := by
    change 4 = 10 - start + 1 at hcolumn
    omega
  exact ⟨hscan, hbrace, (hstart 7).mpr rfl⟩

end BraceTemplate
