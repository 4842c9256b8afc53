import Mathlib.Data.List.Forall2

/-!
# Results in sequence

When computations that may fail, made one after the other, succeed, and which of them decides when
they do not. A list of checks succeeds if each of them does, and fails as the first that fails.
-/

namespace BraceTemplate

/-! ## Two computations -/

section Two

variable {ε α β : Type} {r : Except ε α} {next : α → Except ε β}

theorem bind_eq_ok_iff {b : β} :
    r >>= next = .ok b ↔ ∃ a, r = .ok a ∧ next a = .ok b := by
  cases r <;> simp [bind, Except.bind]

theorem bind_eq_error_iff {e : ε} :
    r >>= next = .error e ↔ r = .error e ∨ ∃ a, r = .ok a ∧ next a = .error e := by
  cases r <;> simp [bind, Except.bind]

end Two

/-! ## Checks -/

section Checks

variable {ε α : Type} {f : α → Except ε Unit}

theorem seq_eq_ok_iff {first second : Except ε Unit} :
    (first >>= fun _ => second) = .ok () ↔ first = .ok () ∧ second = .ok () := by
  cases first <;> simp [bind, Except.bind]

/-- A condition is required, and may itself be unknown. -/
theorem require_eq_ok_iff {known : Except ε Bool} {e : ε} :
    (known >>= fun holds => if holds then pure () else throw e) = .ok () ↔ known = .ok true := by
  cases known with
  | error e => simp [bind, Except.bind]
  | ok holds =>
    cases holds <;>
      simp [bind, Except.bind, pure, Except.pure, throw, throwThe, MonadExceptOf.throw]

theorem forM_eq_ok_iff {l : List α} : l.forM f = .ok () ↔ ∀ a ∈ l, f a = .ok () := by
  induction l with
  | nil => exact ⟨fun _ a hmem => absurd hmem List.not_mem_nil, fun _ => rfl⟩
  | cons a l ih => rw [List.forall_mem_cons, ← ih, ← seq_eq_ok_iff, List.forM]

/-- Checks that refuse what is bad refuse the first that is. -/
theorem forM_eq_of_refusal {bad : α → Bool} {refusal : α → ε}
    (hf : ∀ a, f a = if bad a then .error (refusal a) else .ok ()) (l : List α) :
    l.forM f = match l.find? bad with
      | some a => .error (refusal a)
      | none => .ok () := by
  induction l with
  | nil => rfl
  | cons a l ih =>
    rw [List.forM_eq_forM, List.forM_cons, hf a, List.find?_cons, ← List.forM_eq_forM, ih]
    cases bad a <;> rfl

end Checks

/-! ## Results of a list -/

section Results

variable {ε α β : Type} {f : α → Except ε β} {l : List α}

/-- Results are those of each in the list. -/
theorem forall₂_of_mapM_eq_ok {results : List β} (h : l.mapM f = .ok results) :
    List.Forall₂ (fun a b => f a = .ok b) l results := by
  induction l generalizing results with
  | nil =>
    cases h
    exact .nil
  | cons a l ih =>
    rw [List.mapM_cons] at h
    obtain ⟨b, hb, hrest⟩ := bind_eq_ok_iff.mp h
    obtain ⟨others, hothers, hpure⟩ := bind_eq_ok_iff.mp hrest
    cases hpure
    exact .cons hb (ih hothers)

/-- If there are no results, then for one of the list that has none. -/
theorem exists_of_mapM_eq_error {e : ε} (h : l.mapM f = .error e) : ∃ a ∈ l, f a = .error e := by
  induction l with
  | nil => cases h
  | cons a l ih =>
    rw [List.mapM_cons] at h
    rcases bind_eq_error_iff.mp h with ha | ⟨b, -, hrest⟩
    · exact ⟨a, List.mem_cons_self, ha⟩
    · rcases bind_eq_error_iff.mp hrest with hl | ⟨results, -, hpure⟩
      · obtain ⟨c, hmem, hc⟩ := ih hl
        exact ⟨c, List.mem_cons_of_mem _ hmem, hc⟩
      · cases hpure

end Results

end BraceTemplate
