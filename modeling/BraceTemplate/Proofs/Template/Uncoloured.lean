import BraceTemplate.Proofs.Template.Excerpt
import BraceTemplate.Proofs.Text.Stripped
import Mathlib.Data.List.Intervals

/-!
# Excerpts without colours

Without its colour codes, an excerpt is a header and rows, in which the lines of the template stand
as they are: whatever is marked in the current line, nothing of it is lost or shown twice. The rows
are those in reach of the current line, cut off at both ends of the template.
-/

namespace BraceTemplate.Excerpt

open Text (Interspersed escape)

/-! ## What is to be seen -/

/-- The number of a line, filled up to five places, and the line. -/
def plainRow (r : Nat × Text) : Text :=
  (Text.ofNat r.1).leftpad 5 (' ' : CodePoint) ++ " | " ++ r.2

/-- The header tells the current line. -/
def plainHeader (current : Nat) : Text :=
  "  Template, line " ++ Text.ofNat current

/-- An empty line, the header, and the rows. -/
def plainExcerpt (current : Nat) (rows : List (Nat × Text)) : Text :=
  '\n' :: (plainHeader current :: rows.map plainRow).flatMap (· ++ (['\n'] : Text))

/-- The lines with the numbers from `first` to `last`, each behind its number. The first line of all
has the number one. -/
structure Numbered (lines : List Text) (first last : Nat) (rows : List (Nat × Text)) : Prop where
  numbers : rows.map Prod.fst = List.Ico first (last + 1)
  texts : ∀ r ∈ rows, lines[r.1 - 1]? = some r.2

/-! ## The lines in reach -/

/-- A line number is moved to the nearest line; a missing one is that of the first. -/
theorem clampLine_eq {count : Nat} (hpos : 1 ≤ count) (line : Option Int) :
    (clampLine count line : Int) = max 1 (min (line.getD 1) count) := by
  unfold clampLine
  omega

theorem one_le_length_templateLines (template : Text) : 1 ≤ (templateLines template).length := by
  unfold templateLines
  split
  · rfl
  · rename_i hne
    exact List.length_pos_iff.mpr hne

section Window

variable {lines : List Text} {first last : Nat} {rows : List (Nat × Text)}

/-- There is only one way to number lines. -/
theorem Numbered.eq_map (h : Numbered lines first last rows) :
    rows = (List.Ico first (last + 1)).map fun n => (n, (lines[n - 1]?).getD []) := by
  rw [← h.numbers, List.map_map]
  have hsame : ∀ r ∈ rows, (r.1, (lines[r.1 - 1]?).getD []) = r := by
    intro r hr
    rw [h.texts r hr, Option.getD_some]
  exact (List.map_id rows).symm.trans (List.map_congr_left fun r hr => (hsame r hr).symm)

theorem map_fst_mapIdx (lines : List Text) :
    (lines.mapIdx fun index line => (index + 1, line)).map Prod.fst =
      List.Ico 1 (lines.length + 1) := by
  apply List.ext_getElem
  · simp
  · intro n h h'
    simp [List.Ico, Nat.add_comm]

/-- A window has the lines with numbers within its bounds, as far as there are any. -/
theorem numbered_window (first last : Nat) (lines : List Text) :
    Numbered lines (max 1 first) (min lines.length last) (window first last lines) where
  numbers := by
    have hbounds : (fun number => decide (first ≤ number) && decide (number ≤ last)) =
        fun number => decide (first ≤ number) && decide (number < last + 1) := by
      simp only [Nat.lt_succ_iff]
    have hends : min (lines.length + 1) (last + 1) = min lines.length last + 1 := by omega
    have hfilter : (window first last lines).map Prod.fst =
        (List.Ico 1 (lines.length + 1)).filter
          fun number => decide (first ≤ number) && decide (number < last + 1) := by
      rw [← hbounds, ← map_fst_mapIdx, List.filter_map]
      rfl
    rw [hfilter, ← List.filter_filter, List.Ico.filter_lt, List.Ico.filter_le, hends]
  texts := by
    intro r hr
    obtain ⟨i, hi, rfl⟩ := List.mem_mapIdx.mp (List.mem_filter.mp hr).1
    exact List.getElem?_eq_getElem hi

end Window

/-! ## Putting in the colours -/

theorem interspersed_bright : Interspersed [] bright :=
  .nil_colour (by decide)

theorem interspersed_dim : Interspersed [] dim :=
  .nil_colour (by decide)

theorem interspersed_plain : Interspersed [] Text.plain :=
  .nil_colour (by decide)

theorem interspersed_markStart : Interspersed [] markStart :=
  (Interspersed.nil_colour (by decide)).append (.nil_colour (by decide))

theorem interspersed_header (current : Nat) :
    Interspersed (plainHeader current) (header current) :=
  ((interspersed_bright.append (.refl "  Template, line ")).append
    (.refl (Text.ofNat current))).append_code interspersed_plain

/-- The three parts into which a mark cuts a line are the line. -/
theorem interspersed_markToken (line : Text) (column : Option Int) (tokenLength : Nat) :
    Interspersed line (markToken line column tokenLength) := by
  cases column with
  | none => exact .refl line
  | some column =>
    rw [markToken]
    split
    · let before := line.take (column.toNat - 1)
      let token := (line.drop (column.toNat - 1)).take tokenLength
      let behind := line.drop (column.toNat - 1 + tokenLength)
      have hbehind : token ++ behind = line.drop (column.toNat - 1) := by
        simp only [token, behind, ← List.drop_drop, List.take_append_drop]
      have hparts : before ++ token ++ behind = line := by
        rw [List.append_assoc, hbehind, List.take_append_drop]
      have hmarked := ((((Interspersed.refl before).append_code interspersed_markStart).append
        (.refl token)).append_code interspersed_plain).append (.refl behind)
      rwa [hparts] at hmarked
    · exact .refl line

theorem interspersed_row {colour line shown : Text} (hcolour : Interspersed [] colour)
    (hline : Interspersed line shown) (number : Nat) :
    Interspersed (plainRow (number, line)) (row colour number shown) := by
  have hbar : (" |" : Text) ++ " " = " | " := rfl
  have hrow := ((((hcolour.append (.refl ((Text.ofNat number).leftpad 5 ' '))).append
    (.refl " |")).append_code interspersed_plain).append (.refl " ")).append hline
  rwa [List.nil_append, List.append_assoc (_ : Text) (" |" : Text), hbar] at hrow

theorem interspersed_rowOf (current : Nat) (column : Option Int) (tokenLength : Nat)
    (r : Nat × Text) :
    Interspersed (plainRow r) (rowOf current column tokenLength r.1 r.2) := by
  unfold rowOf
  split
  · exact interspersed_row interspersed_bright (interspersed_markToken r.2 column tokenLength) r.1
  · exact interspersed_row interspersed_dim (.refl r.2) r.1

/-- **An excerpt is a plain one with colours put in**, whatever is in the template. -/
theorem interspersed_render (template : Text) (line column : Option Int) (token : Text) :
    let lines := templateLines template
    let current := clampLine lines.length line
    Interspersed (plainExcerpt current (window (current - reach) (current + reach) lines))
      (render template line column token) := by
  intro lines current
  have hrows : ∀ r ∈ window (current - reach) (current + reach) lines,
      Interspersed (plainRow r ++ (['\n'] : Text))
        (rowOf current column token.length r.1 r.2 ++ (['\n'] : Text)) :=
    fun r _ => (interspersed_rowOf current column token.length r).append (.refl _)
  have hheader := (interspersed_header current).append (.refl ['\n'])
  unfold plainExcerpt render
  simp only [List.flatMap_cons, List.flatMap_map]
  exact .keep '\n' (hheader.append (.flatMap hrows))

/-! ## Taking the colours out -/

theorem escape_not_mem_ofNat (n : Nat) : escape ∉ Text.ofNat n := by
  intro hmem
  have hdigit : escape.isDigit = true :=
    List.all_eq_true.mp (Text.all_isDigit_ofNat n) escape hmem
  cases hdigit

theorem escape_not_mem_plainHeader (current : Nat) : escape ∉ plainHeader current := by
  intro hmem
  rcases List.mem_append.mp hmem with htext | hdigit
  · exact absurd htext (by decide)
  · exact escape_not_mem_ofNat current hdigit

theorem escape_not_mem_plainRow {r : Nat × Text} (h : escape ∉ r.2) : escape ∉ plainRow r := by
  intro hmem
  simp only [plainRow, List.leftpad, List.mem_append, or_assoc] at hmem
  rcases hmem with hblank | hdigit | hbar | hline
  · exact absurd (List.eq_of_mem_replicate hblank) (by decide)
  · exact escape_not_mem_ofNat r.1 hdigit
  · exact absurd hbar (by decide)
  · exact h hline

/-- Only the lines could bring an escape character. -/
theorem escape_not_mem_plainExcerpt {rows : List (Nat × Text)} (h : ∀ r ∈ rows, escape ∉ r.2)
    (current : Nat) : escape ∉ plainExcerpt current rows := by
  have hparts : ∀ part ∈ plainHeader current :: rows.map plainRow, escape ∉ part := by
    refine List.forall_mem_cons.mpr ⟨escape_not_mem_plainHeader current, ?_⟩
    intro part hpart
    obtain ⟨r, hr, rfl⟩ := List.mem_map.mp hpart
    exact escape_not_mem_plainRow (h r hr)
  intro hmem
  rcases List.mem_cons.mp hmem with hfeed | hmem
  · exact absurd hfeed (by decide)
  · obtain ⟨part, hpart, hmem⟩ := List.mem_flatMap.mp hmem
    rcases List.mem_append.mp hmem with hmem | hfeed
    · exact hparts part hpart hmem
    · exact absurd hfeed (by decide)

/-- The lines of a template contain nothing that the template does not. -/
theorem mem_of_mem_templateLines {template line : Text} (hline : line ∈ templateLines template)
    {c : CodePoint} (hc : c ∈ line) : c ∈ template := by
  unfold templateLines at hline
  split at hline
  · rw [List.mem_singleton.mp hline] at hc
    cases hc
  · exact (Text.flatten_lines_sublist template).subset (List.mem_flatten_of_mem hline hc)

/-- **Without its colours, an excerpt shows the template as it is.** The current line is the one
with the given number, or the nearest to it that the template has. Below its header are the lines
from two before it to two behind it, as far as there are any, each behind its number and without
any change. -/
theorem stripColours_render {template : Text} (hplain : escape ∉ template)
    (line column : Option Int) (token : Text) :
    let lines := templateLines template
    ∃ (current : Nat) (rows : List (Nat × Text)),
      (current : Int) = max 1 (min (line.getD 1) lines.length) ∧
      Numbered lines (max 1 (current - 2)) (min lines.length (current + 2)) rows ∧
      Text.stripColours (render template line column token) = plainExcerpt current rows := by
  intro lines
  let current := clampLine lines.length line
  have hrows := numbered_window (current - reach) (current + reach) lines
  refine ⟨current, _, clampLine_eq (one_le_length_templateLines template) line, hrows, ?_⟩
  have hlines : ∀ r ∈ window (current - reach) (current + reach) lines, escape ∉ r.2 := by
    intro r hr hmem
    exact hplain (mem_of_mem_templateLines (List.mem_of_getElem? (hrows.texts r hr)) hmem)
  have hescape := escape_not_mem_plainExcerpt hlines current
  have hstrip := (interspersed_render template line column token).stripColours_append
    (fun c hc heq => hescape (heq ▸ hc)) []
  simpa using hstrip

/-- A mark that goes beyond the end of the last line, which is the nearest to the one asked for. -/
theorem stripColours_render_past_end :
    escape ∉ ("a\n\x7bx\x7d\rc\nd\x7by\x7d" : Text) ∧
      Text.stripColours (render "a\n\x7bx\x7d\rc\nd\x7by\x7d" (some 9) (some 2) "\x7by:6.2f\x7d") =
        "\n  Template, line 4\n    2 | \x7bx\x7d\n    3 | c\n    4 | d\x7by\x7d\n" := by
  have hplain : escape ∉ ("a\n\x7bx\x7d\rc\nd\x7by\x7d" : Text) := by decide
  obtain ⟨current, rows, hcurrent, hrows, hshown⟩ :=
    stripColours_render hplain (some 9) (some 2) "\x7by:6.2f\x7d"
  obtain rfl : current = 4 := by
    change (current : Int) = max 1 (min 9 4) at hcurrent
    omega
  rw [hshown, hrows.eq_map]
  exact ⟨hplain, rfl⟩

end BraceTemplate.Excerpt
