import BraceTemplate.Proofs.Template.Places
import BraceTemplate.Proofs.Text.Lines
import BraceTemplate.Template.Excerpt

/-!
# The placeholder in its excerpt

The excerpt for a placeholder always has the row with the number of its line as the current one.
But the place of a placeholder counts line feeds only, and the rows are cut at every line boundary.
So the row is that of the line in which the placeholder stands, with the placeholder marked in it,
just if all lines before it end in line feeds. Otherwise the row is that of an earlier line.
-/

namespace BraceTemplate.Excerpt

open Text (OneLine boundaries firstLine lastLine EndsLinesByFeeds)

/-! ## Rows -/

/-- A row that is not the current one. -/
def otherRow (r : Nat × Text) : Text :=
  row dim r.1 r.2

/-- The excerpt has one current row, with this number and showing this line. The rows before it and
behind it have smaller and larger numbers. -/
def HasCurrentRow (excerpt : Text) (number : Nat) (shown : Text) : Prop :=
  ∃ above below : List (Nat × Text), (∀ r ∈ above, r.1 < number) ∧ (∀ r ∈ below, number < r.1) ∧
    excerpt = ('\n' : CodePoint) :: (header number :: (above.map otherRow ++
      row bright number shown :: below.map otherRow)).flatMap (· ++ (['\n'] : Text))

theorem templateLines_eq {template : Text} (h : Text.lines template ≠ []) :
    templateLines template = Text.lines template := by
  unfold templateLines
  split
  · rename_i hnil
    exact absurd hnil h
  · rfl

theorem clampLine_of_le {count n : Nat} (hpos : 1 ≤ n) (hle : n ≤ count) :
    clampLine count (some n) = n := by
  simp only [clampLine, Option.getD_some]
  omega

/-- A window around a line has it behind the lines with smaller numbers and before those with larger
ones. -/
theorem exists_window_eq {first last n : Nat} {lines : List Text} {line : Text}
    (hline : lines[n]? = some line) (hfirst : first ≤ n + 1) (hlast : n + 1 ≤ last) :
    ∃ above below, window first last lines = above ++ (n + 1, line) :: below ∧
      (∀ r ∈ above, r.1 < n + 1) ∧ ∀ r ∈ below, n + 1 < r.1 := by
  obtain ⟨hn, hget⟩ := List.getElem?_eq_some_iff.mp hline
  have hsplit : lines = lines.take n ++ line :: lines.drop (n + 1) := by
    rw [← hget, List.getElem_cons_drop, List.take_append_drop]
  have hlength : (lines.take n).length = n := List.length_take_of_le (Nat.le_of_lt hn)
  rw [hsplit, window, List.mapIdx_append, List.mapIdx_cons, List.filter_append,
    List.filter_cons_of_pos (by simp [hlength, hfirst, hlast])]
  refine ⟨_, _, by simp only [hlength, Nat.zero_add]; rfl, ?_, ?_⟩
  · intro r hr
    obtain ⟨i, hi, rfl⟩ := List.mem_mapIdx.mp (List.mem_filter.mp hr).1
    show i + 1 < n + 1
    omega
  · intro r hr
    obtain ⟨i, hi, rfl⟩ := List.mem_mapIdx.mp (List.mem_filter.mp hr).1
    show n + 1 < i + 1 + n + 1
    omega

/-- The excerpt at a line of the template has that line in its current row, with a token marked. -/
theorem hasCurrentRow_render {template line : Text} {n : Nat}
    (hline : (Text.lines template)[n]? = some line) (column : Option Int) (token : Text) :
    HasCurrentRow (render template (some (n + 1 : Nat)) column token) (n + 1)
      (markToken line column token.length) := by
  obtain ⟨hn, -⟩ := List.getElem?_eq_some_iff.mp hline
  have hlines : templateLines template = Text.lines template :=
    templateLines_eq (List.ne_nil_of_length_pos (Nat.zero_lt_of_lt hn))
  have hcurrent : clampLine (Text.lines template).length (some (n + 1 : Nat)) = n + 1 :=
    clampLine_of_le (Nat.succ_pos n) hn
  obtain ⟨above, below, hwindow, habove, hbelow⟩ :=
    exists_window_eq hline (Nat.sub_le (n + 1) reach) (Nat.le_add_right (n + 1) reach)
  have hother : ∀ r : Nat × Text, r.1 ≠ n + 1 →
      rowOf (n + 1) column token.length r.1 r.2 = otherRow r := fun r hr => if_neg hr
  have habove' : above.map (fun r => rowOf (n + 1) column token.length r.1 r.2) =
      above.map otherRow :=
    List.map_congr_left fun r hr => hother r (Nat.ne_of_lt (habove r hr))
  have hbelow' : below.map (fun r => rowOf (n + 1) column token.length r.1 r.2) =
      below.map otherRow :=
    List.map_congr_left fun r hr => hother r (Nat.ne_of_gt (hbelow r hr))
  refine ⟨above, below, habove, hbelow, ?_⟩
  unfold render
  simp only [hlines, hcurrent, hwindow, List.map_append, List.map_cons]
  rw [habove', hbelow']
  simp only [rowOf, if_true]

/-- A token is marked at the column where it stands. -/
theorem markToken_append {before token after : Text} (hne : token ≠ []) :
    markToken (before ++ (token ++ after)) (some (before.length + 1 : Nat)) token.length =
      before ++ markStart ++ token ++ Text.plain ++ after := by
  have hpos : 0 < token.length := List.length_pos_of_ne_nil hne
  have hcolumn : (0 : Int) < (before.length + 1 : Nat) ∧
      ((before.length + 1 : Nat) : Int) ≤ (before ++ (token ++ after)).length := by
    simp only [List.length_append]
    omega
  simp only [markToken, if_pos hcolumn, Int.toNat_natCast, Nat.add_sub_cancel,
    List.take_left, List.drop_left, ← List.drop_drop]

/-! ## The row of a placeholder -/

/-- The excerpt at the place of a placeholder, with its text as the token. -/
def ofPlaceholder (template : Text) (p : Placeholder) : Text :=
  render template (some p.position.line) (some p.position.column) p.raw

/-- The current row of the excerpt is that of the line in which the placeholder stands, and the mark
is around the placeholder where it stands in that line. -/
structure Marks (template before : Text) (p : Placeholder) (after : Text) : Prop where
  own_line : p.position.line = boundaries before + 1
  shows : HasCurrentRow (ofPlaceholder template p) p.position.line
    (lastLine before ++ markStart ++ p.raw ++ Text.plain ++ firstLine after)

section Scanned

variable {template : Text} {before after : List Segment} {p : Placeholder}

theorem raw_ne_nil (p : Placeholder) : p.raw ≠ [] :=
  List.cons_ne_nil _ _

/-- The line in which a placeholder stands. -/
theorem getElem?_lines_of_scan (hscan : scan template = before ++ .field p :: after)
    (hraw : OneLine p.raw) :
    (Text.lines template)[boundaries (unscan before)]? =
      some (lastLine (unscan before) ++ (p.raw ++ firstLine (unscan after))) := by
  rw [template_eq_of_scan hscan]
  exact Text.getElem?_lines (raw_ne_nil p) hraw _ _

theorem line_of_scan (hscan : scan template = before ++ .field p :: after) :
    p.position.line = (unscan before).count ('\n' : CodePoint) + 1 := by
  rw [position_of_scan hscan, Position.line_advance, Nat.add_comm]
  rfl

/-- Some line of the template has the number that the place of a placeholder tells. -/
theorem exists_hasCurrentRow (hscan : scan template = before ++ .field p :: after)
    (hraw : OneLine p.raw) :
    ∃ shown, HasCurrentRow (ofPlaceholder template p) p.position.line shown := by
  obtain ⟨hown, -⟩ := List.getElem?_eq_some_iff.mp (getElem?_lines_of_scan hscan hraw)
  have hfeeds := (Text.count_lineFeed_le_boundaries (unscan before)).1
  have hcount : (unscan before).count ('\n' : CodePoint) < (Text.lines template).length := by omega
  have hrow := hasCurrentRow_render (List.getElem?_eq_getElem hcount) (some p.position.column) p.raw
  rw [← line_of_scan hscan] at hrow
  exact ⟨_, hrow⟩

theorem marks_of_endsLinesByFeeds (hscan : scan template = before ++ .field p :: after)
    (hraw : OneLine p.raw) (hfeeds : EndsLinesByFeeds (unscan before)) :
    Marks template (unscan before) p (unscan after) := by
  have hcount := (Text.count_lineFeed_le_boundaries (unscan before)).2.mpr hfeeds
  have hline : p.position.line = boundaries (unscan before) + 1 := by
    rw [line_of_scan hscan, hcount]
  have hcolumn : p.position.column = (lastLine (unscan before)).length + 1 := by
    rw [position_of_scan hscan, Position.column_advance rfl, hfeeds.lastLine_eq]
  refine ⟨hline, ?_⟩
  have hrow := hasCurrentRow_render (getElem?_lines_of_scan hscan hraw)
    (some p.position.column) p.raw
  rw [hcolumn, markToken_append (raw_ne_nil p), ← hcolumn, ← hline] at hrow
  exact hrow

/-- **The excerpt marks a placeholder just if line feeds end the lines before it.** The placeholder
stands in the line behind as many line boundaries as there are before it. The excerpt always has
the row with the number that the place tells as the current one; that is no later row than the one
of the placeholder, and it is that row, with the mark around the placeholder, exactly if every line
before ends in a line feed, alone or behind a carriage return. -/
theorem marks_iff_endsLinesByFeeds (hscan : scan template = before ++ .field p :: after)
    (hraw : OneLine p.raw) :
    (Text.lines template)[boundaries (unscan before)]? =
        some (lastLine (unscan before) ++ (p.raw ++ firstLine (unscan after))) ∧
      p.position.line ≤ boundaries (unscan before) + 1 ∧
      (∃ shown, HasCurrentRow (ofPlaceholder template p) p.position.line shown) ∧
      (Marks template (unscan before) p (unscan after) ↔ EndsLinesByFeeds (unscan before)) := by
  obtain ⟨hle, hiff⟩ := Text.count_lineFeed_le_boundaries (unscan before)
  have hline := line_of_scan hscan
  refine ⟨getElem?_lines_of_scan hscan hraw, by omega, exists_hasCurrentRow hscan hraw, ?_⟩
  constructor
  · intro hmarks
    have hown := hmarks.own_line
    exact hiff.mp (by omega)
  · exact marks_of_endsLinesByFeeds hscan hraw

end Scanned

/-- A line that ends in both characters is before the placeholder. -/
theorem marks_behind_lineFeed :
    scan "a\r\nb\x7b\x7d" = [.literal "a\r\nb", .field ⟨"", none, ⟨2, 2⟩⟩] ∧
      EndsLinesByFeeds "a\r\nb" ∧
      Marks "a\r\nb\x7b\x7d" "a\r\nb" ⟨"", none, ⟨2, 2⟩⟩ [] := by
  have hscan : scan "a\r\nb\x7b\x7d" =
      [.literal "a\r\nb"] ++ .field ⟨"", none, ⟨2, 2⟩⟩ :: [] := by decide +kernel
  have hraw : OneLine (Placeholder.raw ⟨"", none, ⟨2, 2⟩⟩) := List.all_eq_true.mp rfl
  have hfeeds : EndsLinesByFeeds "a\r\nb" :=
    (Text.count_lineFeed_le_boundaries _).2.mp (by decide)
  obtain ⟨-, -, -, hiff⟩ := marks_iff_endsLinesByFeeds hscan hraw
  exact ⟨hscan, hfeeds, hiff.mpr hfeeds⟩

/-- A lone carriage return before a placeholder: the current row is that of the line before, and
nothing is marked. -/
theorem not_marks_behind_carriageReturn :
    scan "a\rb\x7b\x7d" = [.literal "a\rb", .field ⟨"", none, ⟨1, 4⟩⟩] ∧
      OneLine (Placeholder.raw ⟨"", none, ⟨1, 4⟩⟩) ∧
      ofPlaceholder "a\rb\x7b\x7d" ⟨"", none, ⟨1, 4⟩⟩ =
        "\n\x1b[97m  Template, line 1\x1b[0m\n\x1b[97m    1 |\x1b[0m a\n" ++
          "\x1b[90m    2 |\x1b[0m b\x7b\x7d\n" ∧
      ¬ markStart <:+: ofPlaceholder "a\rb\x7b\x7d" ⟨"", none, ⟨1, 4⟩⟩ := by
  have hraw : OneLine (Placeholder.raw ⟨"", none, ⟨1, 4⟩⟩) := List.all_eq_true.mp rfl
  exact ⟨by decide +kernel, hraw, by decide +kernel, by decide +kernel⟩

end BraceTemplate.Excerpt
