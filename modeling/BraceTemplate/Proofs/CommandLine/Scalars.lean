import BraceTemplate.Proofs.CommandLine.Numbers
import BraceTemplate.Proofs.Number.StoredBits

/-!
# Scalars as words

The default text of a scalar, typed in as a word, stands for the scalar again: null and the truth
values are the literals, and numbers are read from their texts. A floating-point number comes back
bit by bit, whichever of the 64-bit patterns it is, with all that is not a number taken as one.
-/

namespace BraceTemplate

/-- Null, truth values, whole numbers that are not too long to be read, and floating-point numbers. -/
inductive Value.IsScalar : Value → Prop where
  | null : IsScalar .null
  | bool {b} : IsScalar (.bool b)
  | int {i} (fits : (Text.ofNat i.natAbs).length ≤ Numeral.maxDigits) : IsScalar (.int i)
  | float {x} : IsScalar (.float x)

namespace Argument

variable {v : Value}

theorem coerce_of_isScalar (h : v.IsScalar) : coerce v.stringify = v := by
  cases h with
  | null => rfl
  | @bool b => cases b <;> rfl
  | int fits => exact coerce_stringify (.int fits)
  | float => exact coerce_stringify .float

/-- A pattern of 64 bits is one again, or is not a number before and after. -/
theorem toBits_of_coerce {bits : Nat} (h : bits < Binary64.wordCount) :
    ∃ x, coerce (Value.float (.ofBits bits)).stringify = .float x ∧
      (x.toBits = bits ∨ x = .nan ∧ Binary64.ofBits bits = .nan) := by
  refine ⟨_, coerce_of_isScalar .float, ?_⟩
  by_cases hnumber : Binary64.ofBits bits = .nan
  · exact .inr ⟨hnumber, hnumber⟩
  · exact .inl (Binary64.toBits_ofBits h hnumber)

/-- **The text of a scalar stands for the scalar.** It is of the same sort again and the same value,
and a floating-point number is stored in the same bits as before. -/
theorem coerce_stringify_scalar (h : v.IsScalar) :
    coerce v.stringify = v ∧
      ∀ bits < Binary64.wordCount, v = .float (.ofBits bits) →
        ∃ x, coerce v.stringify = .float x ∧
          (x.toBits = bits ∨ x = .nan ∧ Binary64.ofBits bits = .nan) := by
  refine ⟨coerce_of_isScalar h, ?_⟩
  intro bits hbits hv
  rw [hv]
  exact toBits_of_coerce hbits

/-- The smallest number below zero, with the lowest of its bits and its sign bit set. -/
theorem coerce_stringify_scalar_of_smallest :
    (Value.float (.ofBits 0x8000000000000001)).IsScalar ∧
      (Value.float (.ofBits 0x8000000000000001)).stringify = "-5e-324" ∧
      coerce "-5e-324" = .float (.ofBits 0x8000000000000001) ∧
      ∃ x, coerce "-5e-324" = .float x ∧ x.toBits = 0x8000000000000001 := by
  have hscalar : (Value.float (.ofBits 0x8000000000000001)).IsScalar := .float
  have htext : (Value.float (.ofBits 0x8000000000000001)).stringify = "-5e-324" := by
    decide +kernel
  obtain ⟨hread, hbits⟩ := coerce_stringify_scalar hscalar
  obtain ⟨x, hx, hstored⟩ := hbits 0x8000000000000001 (by decide) rfl
  rw [htext] at hread hx
  refine ⟨hscalar, htext, hread, x, hx, hstored.resolve_right ?_⟩
  rintro ⟨-, hnan⟩
  revert hnan
  decide

end Argument

end BraceTemplate
