/-!
# Code points

A code point is a character, or one of the surrogates: the code points by which two halves of a
character are told where there are only sixteen bits. A surrogate by itself is no character, but
text can contain it: it can come from a number or from an escape. What it cannot be is encoded.
-/

namespace BraceTemplate

inductive CodePoint where
  | scalar (c : Char)
  | surrogate (index : Fin 0x800)
deriving DecidableEq

namespace CodePoint

/-- A character literal can stand where a code point is asked for. -/
instance : Coe Char CodePoint := ⟨scalar⟩

/-- The number of a code point. -/
def toNat : CodePoint → Nat
  | .scalar c => c.toNat
  | .surrogate index => 0xD800 + index

/-- The code point with this number. There are none from `0x110000` on, where it is the last. -/
def ofNat (n : Nat) : CodePoint :=
  if n.isValidChar then .scalar (Char.ofNat n)
  else if n < 0xE000 then .surrogate (Fin.ofNat 0x800 (n - 0xD800))
  else .scalar (Char.ofNat 0x10FFFF)

theorem toNat_ofNat {n : Nat} (h : n < 0x110000) : (ofNat n).toNat = n := by
  unfold ofNat
  split
  · rename_i hvalid
    rw [toNat, Char.ofNat, dif_pos hvalid]
    rfl
  · rename_i hinvalid
    have hsurrogate : 0xD800 ≤ n ∧ n < 0xE000 := by
      simp only [Nat.isValidChar] at hinvalid
      omega
    rw [if_pos hsurrogate.2]
    simp only [toNat, Fin.val_ofNat]
    omega

theorem toNat_lt (c : CodePoint) : c.toNat < 0x110000 := by
  cases c with
  | scalar c =>
    have hc : c.toNat.isValidChar := c.valid
    simp only [toNat, Nat.isValidChar] at hc ⊢
    omega
  | surrogate index =>
    simp only [toNat]
    omega

/-- A number is that of one code point. -/
theorem toNat_inj {a b : CodePoint} : a.toNat = b.toNat ↔ a = b := by
  constructor
  · intro h
    cases a with
    | scalar c =>
      cases b with
      | scalar d => exact congrArg scalar (Char.toNat_inj.1 h)
      | surrogate j =>
        have hc : c.toNat.isValidChar := c.valid
        simp only [toNat, Nat.isValidChar] at h hc
        omega
    | surrogate i =>
      cases b with
      | scalar d =>
        have hd : d.toNat.isValidChar := d.valid
        simp only [toNat, Nat.isValidChar] at h hd
        omega
      | surrogate j => exact congrArg surrogate (Fin.ext (Nat.add_left_cancel h))
  · rintro rfl
    rfl

def isSurrogate : CodePoint → Bool
  | .scalar _ => false
  | .surrogate _ => true

/-- The character, if it is one. -/
def char? : CodePoint → Option Char
  | .scalar c => some c
  | .surrogate _ => none

/-- Code points are ordered by their numbers. -/
instance : LT CodePoint := ⟨fun a b => a.toNat < b.toNat⟩

instance : LE CodePoint := ⟨fun a b => a.toNat ≤ b.toNat⟩

instance (a b : CodePoint) : Decidable (a < b) := inferInstanceAs (Decidable (a.toNat < b.toNat))

instance (a b : CodePoint) : Decidable (a ≤ b) := inferInstanceAs (Decidable (a.toNat ≤ b.toNat))

instance : Trans (α := CodePoint) (· < ·) (· < ·) (· < ·) := ⟨Nat.lt_trans⟩

instance : Std.Irrefl (α := CodePoint) (· < ·) := ⟨fun a => Nat.lt_irrefl a.toNat⟩

instance : Std.Asymm (α := CodePoint) (· < ·) := ⟨fun _ _ => Nat.lt_asymm⟩

instance : Std.Trichotomous (α := CodePoint) (· < ·) :=
  ⟨fun _ _ hab hba => toNat_inj.1 (Nat.le_antisymm (Nat.not_lt.1 hba) (Nat.not_lt.1 hab))⟩

/-! ## ASCII -/

/-- An ASCII digit. -/
def isDigit : CodePoint → Bool
  | .scalar c => c.isDigit
  | .surrogate _ => false

/-- The digits are a run of ten. -/
theorem isDigit_iff {c : CodePoint} : c.isDigit = true ↔ 0x30 ≤ c.toNat ∧ c.toNat ≤ 0x39 := by
  cases c with
  | scalar c => simp [isDigit, toNat, Char.isDigit, UInt32.le_iff_toNat_le]
  | surrogate index =>
    simp only [isDigit, toNat, Bool.false_eq_true, false_iff]
    omega

/-- An ASCII letter in upper case. -/
def isUpper : CodePoint → Bool
  | .scalar c => c.isUpper
  | .surrogate _ => false

/-- An ASCII letter in lower case. -/
def isLower : CodePoint → Bool
  | .scalar c => c.isLower
  | .surrogate _ => false

/-- The ASCII letters in lower case, and all else as it is. -/
def toLower : CodePoint → CodePoint
  | .scalar c => .scalar c.toLower
  | .surrogate index => .surrogate index

/-- The ASCII letters in upper case, and all else as it is. -/
def toUpper : CodePoint → CodePoint
  | .scalar c => .scalar c.toUpper
  | .surrogate index => .surrogate index

/-- The digit with this value, which may be a letter. -/
def digit (value : Nat) : CodePoint :=
  .scalar (Nat.digitChar value)

end CodePoint

end BraceTemplate
