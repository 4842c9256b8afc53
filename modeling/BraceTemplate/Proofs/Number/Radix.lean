import BraceTemplate.Number.Numeral
import BraceTemplate.Render.Integer

/-!
# Numerals in a base

A numeral is read digit by digit, with letters of either case, behind blanks and a sign. The digits
that a number is written with are such a numeral: they have no superfluous zero in front, what is
read from them is the number, and zeros in front of them change nothing.
-/

namespace BraceTemplate.Radix

/-! ## Reading -/

/-- The value of a digit. Letters of either case go on from nine. -/
def digitValue? (c : CodePoint) : Option Nat :=
  if c.isDigit then some (c.toNat - '0'.toNat)
  else if 'a' ≤ c ∧ c ≤ 'f' then some (c.toNat - 'a'.toNat + 10)
  else if 'A' ≤ c ∧ c ≤ 'F' then some (c.toNat - 'A'.toNat + 10)
  else none

/-- The value of a digit of the base. -/
def digit? (r : Radix) (c : CodePoint) : Option Nat :=
  (digitValue? c).filter (· < r.base)

/-- The number whose leading digits are those of `high` and whose last digits are given. -/
def readFrom? (r : Radix) : Nat → Text → Option Nat
  | high, [] => some high
  | high, c :: rest => (r.digit? c).bind fun d => readFrom? r (r.base * high + d) rest

/-- The number that one or more digits write. -/
def readNat? (r : Radix) (t : Text) : Option Nat :=
  if t.isEmpty then none else r.readFrom? 0 t

/-- The integer that blanks, a sign and digits write. -/
def readInt? (r : Radix) (t : Text) : Option Int :=
  let (negative, digits) := Numeral.takeSign (t.dropWhile (· == (' ' : CodePoint)))
  (r.readNat? digits).map fun (n : Nat) => if negative then -(n : Int) else n

/-! ## Digits -/

/-- Letters in upper case, or as they are. -/
def withCase (upper : Bool) (c : CodePoint) : CodePoint :=
  if upper then c.toUpper else c

theorem map_withCase_false (t : Text) : t.map (withCase false) = t :=
  List.map_id t

/-- The digits of `n`: no zero stands in front of others, and the letters have one case. -/
structure Writes (r : Radix) (upper : Bool) (n : Nat) (digits : Text) : Prop where
  value : r.readNat? digits = some n
  leading : digits.head? = some ('0' : CodePoint) → digits = (['0'] : Text)
  letters : ∀ c ∈ digits, c.isDigit = true ∨ (if upper then c.isUpper else c.isLower) = true

section Digits

variable (r : Radix) (upper : Bool)

theorem base_bounds : 1 < r.base ∧ r.base ≤ 16 := by
  cases r <;> decide

/-- The digits are those of the quotient by the base and then the remainder. -/
@[elab_as_elim]
theorem digits_rec {motive : Nat → Text → Prop}
    (single : ∀ d < r.base, motive d [CodePoint.digit d])
    (snoc : ∀ n d, n ≠ 0 → d < r.base → motive n (r.digits n) →
      motive (r.base * n + d) (r.digits n ++ [CodePoint.digit d]))
    (n : Nat) : motive n (r.digits n) := by
  induction n using Nat.strongRecOn with
  | ind n ih =>
    obtain ⟨hbase, -⟩ := r.base_bounds
    rcases Nat.lt_or_ge n r.base with hlt | hge
    · rw [digits, Text.digits, Nat.toDigits_of_lt_base hlt]
      exact single n hlt
    · have hpos : 0 < n := Nat.lt_of_lt_of_le (Nat.zero_lt_of_lt hbase) hge
      have hquotient : n / r.base ≠ 0 := Nat.div_ne_zero_iff.mpr ⟨by omega, hge⟩
      have hremainder : n % r.base < r.base := Nat.mod_lt n (Nat.zero_lt_of_lt hbase)
      have hstep := snoc _ _ hquotient hremainder (ih _ (Nat.div_lt_self hpos hbase))
      rw [Nat.div_add_mod] at hstep
      rw [digits, Text.digits, Nat.toDigits_of_base_le hbase hge, List.map_append]
      exact hstep

theorem digitValue?_digitChar {d : Nat} (h : d < 16) :
    digitValue? (withCase upper (CodePoint.digit d)) = some d := by
  have hall : ∀ d < 16, ∀ upper, digitValue? (withCase upper (CodePoint.digit d)) = some d := by
    decide
  exact hall d h upper

theorem digit?_digitChar {d : Nat} (h : d < r.base) :
    r.digit? (withCase upper (CodePoint.digit d)) = some d := by
  rw [digit?, digitValue?_digitChar upper (Nat.lt_of_lt_of_le h r.base_bounds.2)]
  simp [h]

theorem readFrom?_append (high : Nat) (s t : Text) :
    r.readFrom? high (s ++ t) = (r.readFrom? high s).bind (r.readFrom? · t) := by
  induction s generalizing high with
  | nil => rfl
  | cons c rest ih =>
    cases hdigit : r.digit? c with
    | none => simp [readFrom?, hdigit]
    | some d => simp [readFrom?, hdigit, ih]

/-- Zeros in front change nothing. -/
theorem readFrom?_zeros_append (count : Nat) (t : Text) :
    r.readFrom? 0 (List.replicate count ('0' : CodePoint) ++ t) = r.readFrom? 0 t := by
  have hzero : r.digit? '0' = some 0 :=
    r.digit?_digitChar false (d := 0) (Nat.zero_lt_of_lt r.base_bounds.1)
  induction count with
  | zero => rfl
  | succ count ih => simpa [List.replicate_succ, readFrom?, hzero] using ih

/-- What is read from the digits of a number is the number. -/
theorem readFrom?_digits (n : Nat) :
    r.readFrom? 0 ((r.digits n).map (withCase upper)) = some n := by
  refine r.digits_rec (motive := fun n t => r.readFrom? 0 (t.map (withCase upper)) = some n)
    ?_ ?_ n
  · intro d hd
    simp [readFrom?, r.digit?_digitChar upper hd]
  · intro n d _ hd ih
    simp [readFrom?_append, ih, readFrom?, r.digit?_digitChar upper hd]

theorem digits_ne_nil (n : Nat) : r.digits n ≠ [] :=
  mt List.map_eq_nil_iff.mp Nat.toDigits_ne_nil

theorem readNat?_zeros_append_digits (count n : Nat) :
    r.readNat? (List.replicate count ('0' : CodePoint) ++ (r.digits n).map (withCase upper)) =
      some n := by
  have hne : List.replicate count ('0' : CodePoint) ++ (r.digits n).map (withCase upper) ≠ [] :=
    List.append_ne_nil_of_right_ne_nil _ (by simpa using r.digits_ne_nil n)
  rw [readNat?, if_neg (by simpa using hne), readFrom?_zeros_append, readFrom?_digits]

theorem exists_digitChar_of_mem (n : Nat) : ∀ c ∈ r.digits n, ∃ d < 16, c = CodePoint.digit d := by
  obtain ⟨-, hbase⟩ := r.base_bounds
  refine r.digits_rec (motive := fun _ t => ∀ c ∈ t, ∃ d < 16, c = CodePoint.digit d) ?_ ?_ n
  · intro d hd c hc
    exact ⟨d, Nat.lt_of_lt_of_le hd hbase, List.mem_singleton.mp hc⟩
  · intro n d _ hd ih c hc
    rcases List.mem_append.mp hc with hhigh | hlast
    · exact ih c hhigh
    · exact ⟨d, Nat.lt_of_lt_of_le hd hbase, List.mem_singleton.mp hlast⟩

/-- A number that does not vanish does not begin with a zero. -/
theorem head?_digits_ne (n : Nat) : n ≠ 0 → (r.digits n).head? ≠ some ('0' : CodePoint) := by
  refine r.digits_rec (motive := fun n t => n ≠ 0 → t.head? ≠ some ('0' : CodePoint)) ?_ ?_ n
  · intro d _ hne
    simpa [CodePoint.digit] using hne
  · intro n d hne _ ih _
    rw [List.head?_append, Option.or_of_isSome (by simpa using r.digits_ne_nil n)]
    exact ih hne

/-- **The digits of a number are a numeral of it without superfluous zeros.** -/
theorem writes_digits (n : Nat) : r.Writes upper n ((r.digits n).map (withCase upper)) where
  value := by simpa using r.readNat?_zeros_append_digits upper 0 n
  leading := by
    intro hhead
    have hplain : ∀ d < 16, ∀ upper, withCase upper (CodePoint.digit d) = '0' →
        CodePoint.digit d = '0' := by decide
    obtain ⟨c, hc, hzero⟩ : ∃ c, (r.digits n).head? = some c ∧ withCase upper c = '0' := by
      simpa using hhead
    obtain ⟨d, hd, rfl⟩ := r.exists_digitChar_of_mem n c (List.mem_of_head? hc)
    by_cases hn : n = 0
    · subst hn
      rw [digits, Text.digits, Nat.toDigits_zero]
      cases upper <;> rfl
    · rw [hplain d hd upper hzero] at hc
      exact absurd hc (r.head?_digits_ne n hn)
  letters := by
    have hall : ∀ d < 16, ∀ upper, (withCase upper (CodePoint.digit d)).isDigit = true ∨
        (if upper then (withCase upper (CodePoint.digit d)).isUpper
          else (withCase upper (CodePoint.digit d)).isLower) = true := by decide
    intro c hc
    obtain ⟨digit, hmem, rfl⟩ := List.mem_map.mp hc
    obtain ⟨d, hd, rfl⟩ := r.exists_digitChar_of_mem n digit hmem
    exact hall d hd upper

end Digits

end BraceTemplate.Radix
