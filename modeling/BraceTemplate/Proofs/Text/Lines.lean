import BraceTemplate.Text.Lines
import Mathlib.Data.List.DropRight

/-!
# A place in the lines of a text

The line in which something stands is found by counting the line boundaries before it, and what
stands before it in that line is what follows the last of them. Those who count line feeds only
agree with that just if every line before ends in a line feed, alone or behind a carriage return.
-/

namespace BraceTemplate.Text

/-- The characters that are part of a line. -/
def isInner (c : CodePoint) : Bool :=
  !isLineBoundary c

/-- No line ends within the text. -/
def OneLine (t : Text) : Prop :=
  ∀ c ∈ t, isInner c = true

/-- How many lines end within the text; a carriage return and the line feed behind it end one. -/
def boundaries : Text → Nat
  | [] => 0
  | '\r' :: '\n' :: rest => boundaries rest + 1
  | c :: rest => if isLineBoundary c then boundaries rest + 1 else boundaries rest

/-- What stands before the first line boundary. -/
def firstLine (t : Text) : Text :=
  t.takeWhile isInner

/-- What stands behind the last line boundary. -/
def lastLine (t : Text) : Text :=
  t.rtakeWhile isInner

/-- Every line that ends within the text ends in a line feed, which may follow a carriage return. -/
def EndsLinesByFeeds (t : Text) : Prop :=
  ∀ before c after, t = before ++ c :: after → isLineBoundary c = true →
    c = '\n' ∨ c = '\r' ∧ after.head? = some ('\n' : CodePoint)

variable {t : Text} {c : CodePoint}

/-! ## The last line -/

theorem lastLine_eq_self (h : OneLine t) : lastLine t = t := by
  rw [lastLine, List.rtakeWhile_eq_self_iff]
  exact h

/-- A run at the end goes back to the last character that does not belong to it. -/
theorem rtakeWhile_append_of_not {test : CodePoint → Bool} (hc : test c = false) {line : Text}
    (h : ∀ d ∈ line, test d = true) (before : Text) :
    (before ++ c :: line).rtakeWhile test = line := by
  have hreverse : (before ++ c :: line).reverse = line.reverse ++ c :: before.reverse := by simp
  have hkept : ∀ d ∈ line.reverse, test d = true := fun d hd => h d (List.mem_reverse.mp hd)
  rw [List.rtakeWhile, hreverse, List.takeWhile_append_of_pos hkept]
  simp [hc]

theorem lastLine_append {line : Text} (hc : isLineBoundary c = true) (h : OneLine line)
    (before : Text) : lastLine (before ++ c :: line) = line :=
  rtakeWhile_append_of_not (by simp [isInner, hc]) h before

/-- A text is one line, or its last line begins behind a boundary. -/
theorem oneLine_or_split (t : Text) :
    OneLine t ∨ ∃ before c line, t = before ++ c :: line ∧ isLineBoundary c = true ∧
      OneLine line := by
  induction t with
  | nil => exact .inl (by simp [OneLine])
  | cons d t ih =>
    rcases ih with hline | ⟨before, c, line, rfl, hc, hline⟩
    · cases hd : isLineBoundary d with
      | true => exact .inr ⟨[], d, t, rfl, hd, hline⟩
      | false => exact .inl (List.forall_mem_cons.mpr ⟨by simp [isInner, hd], hline⟩)
    · exact .inr ⟨d :: before, c, line, rfl, hc, hline⟩

/-- Behind a boundary, nothing before it counts. -/
theorem lastLine_cons (h : isLineBoundary c = true ∨ ¬ OneLine t) :
    lastLine (c :: t) = lastLine t := by
  rcases oneLine_or_split t with hline | ⟨before, d, line, rfl, hd, hline⟩
  · have hc := h.resolve_right (not_not_intro hline)
    rw [lastLine_eq_self hline]
    exact lastLine_append hc hline []
  · rw [lastLine_append hd hline]
    exact lastLine_append hd hline (c :: before)

/-! ## Counting lines -/

theorem boundaries_eq_zero_iff (t : Text) : boundaries t = 0 ↔ OneLine t := by
  fun_induction boundaries t with
  | case1 => simp [OneLine]
  | case2 rest ih => simp [OneLine, isInner, isLineBoundary]
  | case3 c rest hpair hc ih => simp [OneLine, isInner, hc]
  | case4 c rest hpair hc ih =>
    rw [ih]
    simp [OneLine, isInner, hc]

/-- A carriage return and the line feed behind it are taken as one. -/
theorem lines_pair (rest : Text) : lines ('\r' :: '\n' :: rest) = [] :: lines rest := by
  rw [lines]

theorem lines_of_boundary (hc : isLineBoundary c = true)
    (hpair : c = '\r' → t.head? ≠ some ('\n' : CodePoint)) : lines (c :: t) = [] :: lines t := by
  rw [lines]
  · rw [if_pos hc]
  · rintro rest rfl rfl
    exact hpair rfl rfl

theorem lines_of_inner (hc : isLineBoundary c = false) :
    lines (c :: t) = consFirst c (lines t) := by
  rw [lines]
  · rw [if_neg (by simp [hc])]
  · rintro rest rfl -
    cases hc

/-- The lines are what is left of the text without its boundaries. -/
theorem flatten_lines_sublist (t : Text) : (lines t).flatten.Sublist t := by
  fun_induction lines t with
  | case1 => exact .slnil
  | case2 rest ih => exact (ih.cons ('\n' : CodePoint)).cons ('\r' : CodePoint)
  | case3 c rest hpair hc ih => exact ih.cons c
  | case4 c rest hpair hc ih =>
    have hfirst : (consFirst c (lines rest)).flatten = c :: (lines rest).flatten := by
      cases lines rest <;> rfl
    rw [hfirst]
    exact ih.cons_cons c

/-- The first line ends before the first boundary. -/
theorem head?_lines (hne : t ≠ []) : (lines t).head? = some (firstLine t) := by
  induction t with
  | nil => exact absurd rfl hne
  | cons c t ih =>
    cases hc : isLineBoundary c with
    | true =>
      have hfirst : firstLine (c :: t) = [] := by simp [firstLine, isInner, hc]
      rw [hfirst]
      by_cases hpair : c = '\r' ∧ t.head? = some ('\n' : CodePoint)
      · obtain ⟨rfl, hhead⟩ := hpair
        obtain ⟨rest, rfl⟩ := List.head?_eq_some_iff.mp hhead
        rw [lines_pair]
        rfl
      · rw [lines_of_boundary hc fun hcr hhead => hpair ⟨hcr, hhead⟩]
        rfl
    | false =>
      have hfirst : firstLine (c :: t) = c :: firstLine t := by simp [firstLine, isInner, hc]
      rw [lines_of_inner hc, hfirst]
      cases t with
      | nil => rfl
      | cons d t =>
        obtain ⟨others, hlines⟩ := List.head?_eq_some_iff.mp (ih (by simp))
        rw [hlines]
        rfl

/-- What is in front of a text only changes its first line. -/
theorem getElem?_consFirst {ls : List Text} {line : Text} {n : Nat} (h : ls[n]? = some line) :
    (consFirst c ls)[n]? = some (if n = 0 then c :: line else line) := by
  cases ls with
  | nil => simp at h
  | cons first others =>
    cases n with
    | zero =>
      obtain rfl : first = line := by simpa using h
      rfl
    | succ n => simpa [consFirst] using h

/-- **The line in which something stands** has as many boundaries before it as there are in the text
before, begins behind the last of them, and ends before the next one. -/
theorem getElem?_lines {middle : Text} (hne : middle ≠ []) (hmiddle : OneLine middle)
    (before after : Text) :
    (lines (before ++ (middle ++ after)))[boundaries before]? =
      some (lastLine before ++ (middle ++ firstLine after)) := by
  fun_induction boundaries before with
  | case1 =>
    have hhead := head?_lines (t := middle ++ after) (by simp [hne])
    rw [firstLine, List.takeWhile_append_of_pos hmiddle, List.head?_eq_getElem?] at hhead
    exact hhead
  | case2 rest ih =>
    have hlast : lastLine ('\r' :: '\n' :: rest) = lastLine rest := by
      rw [lastLine_cons (.inl rfl), lastLine_cons (.inl rfl)]
    rw [List.cons_append, List.cons_append, lines_pair, List.getElem?_cons_succ, ih, hlast]
  | case3 c rest hpair hc ih =>
    have hnext : c = '\r' → (rest ++ (middle ++ after)).head? ≠ some ('\n' : CodePoint) := by
      intro hcr hhead
      cases rest with
      | nil =>
        -- the carriage return is right before the text in the middle
        obtain ⟨first, middle, rfl⟩ := List.exists_cons_of_ne_nil hne
        obtain rfl : first = '\n' := by simpa using hhead
        have hinner := hmiddle '\n' List.mem_cons_self
        cases hinner
      | cons d rest =>
        obtain rfl : d = '\n' := by simpa using hhead
        exact hpair rest hcr rfl
    rw [List.cons_append, lines_of_boundary hc hnext, List.getElem?_cons_succ, ih,
      lastLine_cons (.inl hc)]
  | case4 c rest hpair hc ih =>
    have hc' : isLineBoundary c = false := by simpa using hc
    rw [List.cons_append, lines_of_inner hc', getElem?_consFirst ih]
    by_cases hline : boundaries rest = 0
    · have hrest : OneLine rest := (boundaries_eq_zero_iff rest).mp hline
      have hwhole : OneLine (c :: rest) := List.forall_mem_cons.mpr ⟨by simp [isInner, hc'], hrest⟩
      rw [if_pos hline, lastLine_eq_self hrest, lastLine_eq_self hwhole, List.cons_append]
    · have hrest : ¬ OneLine rest := fun h => hline ((boundaries_eq_zero_iff rest).mpr h)
      rw [if_neg hline, lastLine_cons (.inr hrest)]

/-! ## Line feeds -/

theorem EndsLinesByFeeds.tail (h : EndsLinesByFeeds (c :: t)) : EndsLinesByFeeds t := by
  intro before d after heq hd
  exact h (c :: before) d after (by rw [heq, List.cons_append]) hd

theorem endsLinesByFeeds_cons_iff :
    EndsLinesByFeeds (c :: t) ↔
      (isLineBoundary c = true → c = '\n' ∨ c = '\r' ∧ t.head? = some ('\n' : CodePoint)) ∧
        EndsLinesByFeeds t := by
  constructor
  · intro h
    exact ⟨h [] c t rfl, h.tail⟩
  · rintro ⟨hc, ht⟩ before d after heq hd
    cases before with
    | nil =>
      obtain ⟨rfl, rfl⟩ := List.cons.inj heq
      exact hc hd
    | cons first before =>
      obtain ⟨rfl, rfl⟩ := List.cons.inj heq
      exact ht before d after rfl hd

/-- There are at least as many boundaries as line feeds, and just as many if line feeds end the
lines. -/
theorem count_lineFeed_le_boundaries (t : Text) :
    t.count ('\n' : CodePoint) ≤ boundaries t ∧
      (t.count ('\n' : CodePoint) = boundaries t ↔ EndsLinesByFeeds t) := by
  fun_induction boundaries t with
  | case1 => simp [EndsLinesByFeeds]
  | case2 rest ih =>
    obtain ⟨hle, hiff⟩ := ih
    have hcount : (('\r' : CodePoint) :: ('\n' : CodePoint) :: rest).count ('\n' : CodePoint) =
        rest.count ('\n' : CodePoint) + 1 := by simp
    rw [hcount, endsLinesByFeeds_cons_iff, endsLinesByFeeds_cons_iff, ← hiff]
    simp [hle]
  | case3 c rest hpair hc ih =>
    obtain ⟨hle, hiff⟩ := ih
    rw [endsLinesByFeeds_cons_iff, ← hiff]
    by_cases hfeed : c = '\n'
    · subst hfeed
      simp [hle]
    · -- a boundary that is not counted
      have hcount : (c :: rest).count ('\n' : CodePoint) = rest.count ('\n' : CodePoint) :=
        List.count_cons_of_ne hfeed
      have hother : ¬ (c = '\r' ∧ rest.head? = some ('\n' : CodePoint)) := by
        rintro ⟨hcr, hhead⟩
        obtain ⟨others, rfl⟩ := List.head?_eq_some_iff.mp hhead
        exact hpair others hcr rfl
      rw [hcount]
      constructor
      · omega
      · constructor
        · omega
        · rintro ⟨hends, -⟩
          exact absurd (hends hc) (not_or.mpr ⟨hfeed, hother⟩)
  | case4 c rest hpair hc ih =>
    have hfeed : c ≠ '\n' := by
      rintro rfl
      exact hc rfl
    rw [List.count_cons_of_ne hfeed, endsLinesByFeeds_cons_iff]
    simpa [hc] using ih

/-- If line feeds end the lines, the last line begins behind the last line feed. -/
theorem EndsLinesByFeeds.lastLine_eq (h : EndsLinesByFeeds t) :
    lastLine t = t.rtakeWhile (· != ('\n' : CodePoint)) := by
  have hnoFeed : ∀ line : Text, OneLine line → ∀ c ∈ line, (c != '\n') = true := by
    intro line hline c hc
    have hinner := hline c hc
    rw [bne_iff_ne]
    rintro rfl
    cases hinner
  rcases oneLine_or_split t with hline | ⟨before, c, line, rfl, hc, hline⟩
  · rw [lastLine_eq_self hline, List.rtakeWhile_eq_self_iff.mpr (hnoFeed t hline)]
  · rw [lastLine_append hc hline]
    obtain rfl : c = '\n' := by
      refine (h before c line rfl hc).resolve_right ?_
      rintro ⟨-, hhead⟩
      have hfeed := hnoFeed line hline '\n' (List.mem_of_head? hhead)
      cases hfeed
    exact (rtakeWhile_append_of_not (by decide) (hnoFeed line hline) before).symm

end BraceTemplate.Text
