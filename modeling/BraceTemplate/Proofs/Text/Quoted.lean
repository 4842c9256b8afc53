import BraceTemplate.Proofs.Number.Radix
import BraceTemplate.Text.Quoted
import Mathlib.Algebra.GroupWithZero.Nat
import Mathlib.Data.List.Forall2

/-!
# Texts between quotes

A quotation spells a text character by character, and what stands for one character tells where it
ends. So a quotation is that of one text only.
-/

namespace BraceTemplate.Text

/-! ## Spelling -/

/-- How many digits stand behind the letter when a number is written: as few as are enough. -/
inductive EscapeLetter (n : Nat) : CodePoint → Nat → Prop where
  | two (enough : n < 0x100) : EscapeLetter n 'x' 2
  | four (needed : 0x100 ≤ n) (enough : n < 0x10000) : EscapeLetter n 'u' 4
  | eight (needed : 0x10000 ≤ n) : EscapeLetter n 'U' 8

/-- What stands for a character between quotes: itself, if it is printable, and a backslash in front
of it if it is special; a backslash and a letter, for tabs and line ends; or else a backslash, a
letter and its number in base sixteen. -/
inductive Spelled (quote : CodePoint) : CodePoint → Text → Prop where
  | plain {c} (printable : isPrintable c = true) (ne_quote : c ≠ quote)
      (ne_backslash : c ≠ '\\') : Spelled quote c [c]
  | special {c} (known : c = quote ∨ c = '\\') : Spelled quote c ['\\', c]
  | named {c letter} (known : (c, letter) ∈ [(('\t' : CodePoint), ('t' : CodePoint)), ('\n', 'n'),
      ('\r', 'r')]) : Spelled quote c ['\\', letter]
  | numbered {c letter} {digits : Text} (unprintable : isPrintable c = false)
      (unnamed : c ∉ (['\t', '\n', '\r'] : Text)) (wide : EscapeLetter c.toNat letter digits.length)
      (value : Radix.hexadecimal.readNat? digits = some c.toNat)
      (lower : ∀ d ∈ digits, d.isDigit = true ∨ d.isLower = true) :
      Spelled quote c ('\\' :: letter :: digits)

/-- A text between quotes. These are single, unless only single ones stand in the text. -/
inductive Quotation (t : Text) : Text → Prop where
  | intro {quote parts}
      (chosen : quote = if singleQuote ∈ t ∧ doubleQuote ∉ t then doubleQuote else singleQuote)
      (spelled : List.Forall₂ (Spelled quote) t parts) :
      Quotation t (quote :: parts.flatten ++ [quote])

/-! ## Numbers of characters -/

theorem length_hexPadded {width n : Nat} (hwidth : 0 < width) (h : n < 16 ^ width) :
    (hexPadded width n).length = width := by
  have hle : (digits 16 n).length ≤ width := by
    rw [digits, List.length_map]
    exact (Nat.length_toDigits_le_iff (by decide) hwidth).mpr h
  rw [hexPadded, List.length_leftpad]
  exact Nat.max_eq_left hle

theorem readNat?_hexPadded (width n : Nat) :
    Radix.hexadecimal.readNat? (hexPadded width n) = some n := by
  have hvalue := Radix.hexadecimal.readNat?_zeros_append_digits false
    (width - (digits 16 n).length) n
  rwa [Radix.map_withCase_false] at hvalue

theorem lower_hexPadded (width n : Nat) :
    ∀ d ∈ hexPadded width n, d.isDigit = true ∨ d.isLower = true := by
  have hdigits := (Radix.hexadecimal.writes_digits false n).letters
  rw [Radix.map_withCase_false] at hdigits
  intro d hd
  rcases List.mem_append.mp hd with hzero | hd
  · rw [List.eq_of_mem_replicate hzero]
    exact .inl rfl
  · exact hdigits d hd

/-- The escape of a character that is not printable. -/
theorem spelled_codePointEscape {quote c : CodePoint} (hprintable : isPrintable c = false)
    (hnamed : c ∉ (['\t', '\n', '\r'] : Text)) : Spelled quote c (codePointEscape c) := by
  have hletter : ∀ letter width, EscapeLetter c.toNat letter width → 0 < width →
      c.toNat < 16 ^ width → Spelled quote c ('\\' :: letter :: hexPadded width c.toNat) := by
    intro letter width hletter hwidth hlt
    refine .numbered hprintable hnamed ?_ (readNat?_hexPadded width _) (lower_hexPadded width _)
    rw [length_hexPadded hwidth hlt]
    exact hletter
  unfold codePointEscape
  split
  · rename_i hbyte
    exact hletter 'x' 2 (.two hbyte) (by decide) hbyte
  · rename_i hbyte
    split
    · rename_i hunit
      exact hletter 'u' 4 (.four (Nat.not_lt.mp hbyte) hunit) (by decide) hunit
    · rename_i hunit
      have hlt : c.toNat < 16 ^ 8 := Nat.lt_of_lt_of_le c.toNat_lt (by decide)
      exact hletter 'U' 8 (.eight (Nat.not_lt.mp hunit)) (by decide) hlt

theorem spelled_escapeChar (quote c : CodePoint) : Spelled quote c (escapeChar quote c) := by
  by_cases hspecial : c = quote ∨ c = '\\'
  · rw [escapeChar, if_pos hspecial]
    exact .special hspecial
  obtain ⟨hquote, hbackslash⟩ := not_or.mp hspecial
  by_cases hnamed : c ∈ (['\t', '\n', '\r'] : Text)
  · simp only [List.mem_cons, List.not_mem_nil, or_false] at hnamed
    rw [escapeChar, if_neg hspecial]
    rcases hnamed with rfl | rfl | rfl
    · change Spelled quote '\t' ['\\', 't']
      exact .named (by simp)
    · change Spelled quote '\n' ['\\', 'n']
      exact .named (by simp)
    · change Spelled quote '\r' ['\\', 'r']
      exact .named (by simp)
  · have hescape : escapeChar quote c = if isPrintable c then [c] else codePointEscape c := by
      simp only [List.mem_cons, List.not_mem_nil, or_false, not_or] at hnamed
      rw [escapeChar, if_neg hspecial, if_neg hnamed.1, if_neg hnamed.2.1, if_neg hnamed.2.2]
    rw [hescape]
    split
    · rename_i hprintable
      exact .plain hprintable hquote hbackslash
    · rename_i hprintable
      exact spelled_codePointEscape (Bool.eq_false_iff.mpr hprintable) hnamed

theorem quotation_quoted (t : Text) : Quotation t (quoted t) := by
  have hspelled : List.Forall₂ (Spelled (quoteFor t)) t (t.map (escapeChar (quoteFor t))) := by
    rw [List.forall₂_map_right_iff, List.forall₂_same]
    exact fun c _ => spelled_escapeChar (quoteFor t) c
  exact .intro rfl hspelled

/-! ## Reading back -/

/-- The quotes are not letters, so what stands behind a backslash tells special characters, letters
of names and letters of numbers apart. -/
def IsQuote (c : CodePoint) : Prop :=
  c = singleQuote ∨ c = doubleQuote

variable {quote c d : CodePoint} {p q rest rest' : Text}

theorem EscapeLetter.inj {n n' count count' : Nat} {letter : CodePoint}
    (h : EscapeLetter n letter count) (h' : EscapeLetter n' letter count') : count = count' := by
  cases h <;> cases h' <;> rfl

theorem EscapeLetter.mem {n count : Nat} {letter : CodePoint} (h : EscapeLetter n letter count) :
    letter ∈ (['x', 'u', 'U'] : Text) := by
  cases h <;> decide

theorem not_mem_of_special (hquote : IsQuote quote) (h : c = quote ∨ c = '\\') :
    c ∉ (['t', 'n', 'r'] : Text) ∧ c ∉ (['x', 'u', 'U'] : Text) := by
  rcases h with rfl | rfl
  · rcases hquote with rfl | rfl <;> decide
  · decide

theorem not_mem_of_named {letter : CodePoint}
    (h : (c, letter) ∈ [(('\t' : CodePoint), ('t' : CodePoint)), ('\n', 'n'), ('\r', 'r')]) :
    letter ∈ (['t', 'n', 'r'] : Text) ∧ letter ∉ (['x', 'u', 'U'] : Text) := by
  simp only [List.mem_cons, Prod.mk.injEq, List.not_mem_nil, or_false] at h
  rcases h with ⟨-, rfl⟩ | ⟨-, rfl⟩ | ⟨-, rfl⟩ <;> decide

theorem eq_of_named {letter : CodePoint}
    (h : (c, letter) ∈ [(('\t' : CodePoint), ('t' : CodePoint)), ('\n', 'n'), ('\r', 'r')])
    (h' : (d, letter) ∈ [(('\t' : CodePoint), ('t' : CodePoint)), ('\n', 'n'), ('\r', 'r')]) :
    c = d := by
  simp only [List.mem_cons, Prod.mk.injEq, List.not_mem_nil, or_false] at h
  rcases h with ⟨rfl, rfl⟩ | ⟨rfl, rfl⟩ | ⟨rfl, rfl⟩ <;> simp_all

/-- What stands for a character tells the character, and where it ends. -/
theorem Spelled.inj (hquote : IsQuote quote) (h : Spelled quote c p) (h' : Spelled quote d q)
    (heq : p ++ rest = q ++ rest') : c = d ∧ rest = rest' := by
  -- only what stands for itself has no backslash in front; behind it, the next character decides
  cases h with
  | plain printable ne_quote ne_backslash =>
    cases h' with
    | plain => exact List.cons.inj heq
    | special | named | numbered => exact absurd (List.cons.inj heq).1 ne_backslash
  | special known =>
    cases h' with
    | plain _ _ ne_backslash => exact absurd (List.cons.inj heq).1.symm ne_backslash
    | special => exact List.cons.inj (List.cons.inj heq).2
    | named known' =>
      obtain ⟨rfl, -⟩ := List.cons.inj (List.cons.inj heq).2
      exact absurd (not_mem_of_named known').1 (not_mem_of_special hquote known).1
    | numbered _ _ wide' =>
      obtain ⟨rfl, -⟩ := List.cons.inj (List.cons.inj heq).2
      exact absurd wide'.mem (not_mem_of_special hquote known).2
  | named known =>
    cases h' with
    | plain _ _ ne_backslash => exact absurd (List.cons.inj heq).1.symm ne_backslash
    | special known' =>
      obtain ⟨rfl, -⟩ := List.cons.inj (List.cons.inj heq).2
      exact absurd (not_mem_of_named known).1 (not_mem_of_special hquote known').1
    | named known' =>
      obtain ⟨rfl, hrest⟩ := List.cons.inj (List.cons.inj heq).2
      exact ⟨eq_of_named known known', hrest⟩
    | numbered _ _ wide' =>
      obtain ⟨rfl, -⟩ := List.cons.inj (List.cons.inj heq).2
      exact absurd wide'.mem (not_mem_of_named known).2
  | @numbered letter digits _ _ wide value =>
    cases h' with
    | plain _ _ ne_backslash => exact absurd (List.cons.inj heq).1.symm ne_backslash
    | special known' =>
      obtain ⟨rfl, -⟩ := List.cons.inj (List.cons.inj heq).2
      exact absurd wide.mem (not_mem_of_special hquote known').2
    | named known' =>
      obtain ⟨rfl, -⟩ := List.cons.inj (List.cons.inj heq).2
      exact absurd wide.mem (not_mem_of_named known').2
    | @numbered letter' digits' _ _ wide' value' =>
      obtain ⟨rfl, hrest⟩ := List.cons.inj (List.cons.inj heq).2
      obtain ⟨rfl, hafter⟩ := List.append_inj hrest (wide.inj wide')
      exact ⟨CodePoint.toNat_inj.mp (Option.some.inj (value.symm.trans value')), hafter⟩

theorem Spelled.ne_nil (h : Spelled quote c p) : p ≠ [] := by
  cases h <;> exact List.cons_ne_nil _ _

theorem spelled_inj (hquote : IsQuote quote) {s t : Text} {ps qs : List Text}
    (h : List.Forall₂ (Spelled quote) s ps) (h' : List.Forall₂ (Spelled quote) t qs)
    (heq : ps.flatten = qs.flatten) : s = t := by
  induction h generalizing t qs with
  | nil =>
    cases h' with
    | nil => rfl
    | cons hd _ => exact absurd (List.append_eq_nil_iff.mp heq.symm).1 hd.ne_nil
  | cons hc _ ih =>
    cases h' with
    | nil => exact absurd (List.append_eq_nil_iff.mp heq).1 hc.ne_nil
    | cons hd hothers =>
      obtain ⟨rfl, hrest⟩ := hc.inj hquote hd heq
      rw [ih hothers hrest]

/-- **A quotation is that of one text.** -/
theorem Quotation.inj {s t shown : Text} (h : Quotation s shown) (h' : Quotation t shown) :
    s = t := by
  cases h with
  | @intro quote parts chosen spelled =>
    generalize hshown : quote :: parts.flatten ++ [quote] = shown at h'
    cases h' with
    | intro chosen' spelled' =>
      obtain ⟨rfl, hbody⟩ := List.cons.inj hshown
      have hquote : IsQuote quote := by
        rw [chosen]
        split
        · exact .inr rfl
        · exact .inl rfl
      exact spelled_inj hquote spelled spelled' (List.append_cancel_right hbody)

end BraceTemplate.Text
