import BraceTemplate.Text.CodePoint

/-!
# Text

Text is a list of code points, so a length, a width and a column all count code points. Padding is
the core library's `leftpad` and `rightpad`.
-/

namespace BraceTemplate

/-- A text, code point by code point. -/
abbrev Text := List CodePoint

/-- A string literal can stand where a text is asked for. -/
scoped instance : Coe String Text := ⟨fun s => s.toList.map .scalar⟩

def openBrace : CodePoint := '\x7b'

def closeBrace : CodePoint := '\x7d'

namespace Text

/-- One or more ASCII digits. -/
def isNumeral (t : Text) : Bool :=
  !t.isEmpty && t.all CodePoint.isDigit

/-- The number that a run of ASCII digits writes in base ten; no digits write zero. -/
def toNat (digits : Text) : Nat :=
  digits.foldl (fun n c => 10 * n + (c.toNat - 0x30)) 0

/-- The digits of a number in a base, without leading zeros. -/
def digits (base n : Nat) : Text :=
  (Nat.toDigits base n).map .scalar

/-- The decimal digits of a number, without leading zeros. -/
def ofNat (n : Nat) : Text :=
  digits 10 n

/-- The decimal digits of an integer, after a minus sign if it is negative. -/
def ofInt (i : Int) : Text :=
  if i < 0 then '-' :: ofNat i.natAbs else ofNat i.natAbs

/-- The text without the occurrences of `unwanted` at its end. -/
def dropTrailing (unwanted : CodePoint) (t : Text) : Text :=
  (t.reverse.dropWhile (· == unwanted)).reverse

@[simp] theorem toNat_ofNat (n : Nat) : toNat (ofNat n) = n := by
  rw [toNat, ofNat, digits, List.foldl_map]
  exact Nat.ofDigitChars_ten_toDigits

theorem all_isDigit_ofNat (n : Nat) : (ofNat n).all CodePoint.isDigit = true := by
  rw [ofNat, digits, List.all_map, List.all_eq_true]
  exact fun c hc => Nat.isDigit_of_mem_toDigits (by decide) (by decide) hc

theorem length_ofNat_pos (n : Nat) : 0 < (ofNat n).length := by
  rw [ofNat, digits, List.length_map]
  exact Nat.length_toDigits_pos

theorem ofNat_ne_nil (n : Nat) : ofNat n ≠ [] :=
  List.ne_nil_of_length_pos (length_ofNat_pos n)

theorem isNumeral_ofNat (n : Nat) : isNumeral (ofNat n) = true := by
  simp only [isNumeral, all_isDigit_ofNat, Bool.and_true, Bool.not_eq_true',
    List.isEmpty_eq_false_iff]
  exact ofNat_ne_nil n

end Text

/-! ## Texts around a character -/

theorem bne_of_not_mem {a : CodePoint} {t : Text} (h : a ∉ t) : ∀ c ∈ t, (c != a) = true := by
  intro c hc
  simp only [bne_iff_ne, ne_eq]
  intro heq
  exact h (heq ▸ hc)

theorem takeWhile_ne_append {a : CodePoint} {s t : Text} (h : a ∉ s) :
    (s ++ a :: t).takeWhile (· != a) = s := by
  rw [List.takeWhile_append_of_pos (bne_of_not_mem h)]
  simp

theorem dropWhile_ne_append {a : CodePoint} {s t : Text} (h : a ∉ s) :
    (s ++ a :: t).dropWhile (· != a) = a :: t := by
  rw [List.dropWhile_append_of_pos (bne_of_not_mem h)]
  simp

theorem dropWhile_ne_eq_cons {a : CodePoint} {t : Text} {c : CodePoint} {rest : Text}
    (h : t.dropWhile (· != a) = c :: rest) : c = a := by
  have hhead := List.head?_dropWhile_not (· != a) t
  simpa [h] using hhead

theorem dropWhile_ne_of_mem {a : CodePoint} {t : Text} (h : a ∈ t) :
    t.dropWhile (· != a) = a :: (t.dropWhile (· != a)).drop 1 := by
  induction t with
  | nil => simp at h
  | cons c rest ih =>
    by_cases hc : c = a
    · subst hc
      simp
    · have hrest : a ∈ rest := by simpa [Ne.symm hc] using h
      have hd : (c :: rest).dropWhile (· != a) = rest.dropWhile (· != a) := by simp [hc]
      rw [hd]
      exact ih hrest

end BraceTemplate
