import BraceTemplate.Binding
import BraceTemplate.Proofs.Sequence

/-!
# Binding placeholder by placeholder

What the walk over the segments does, whatever was checked before it. Each placeholder is bound to
the argument that it addresses, which depends on the placeholder, on the arguments and, for an
anonymous one, on the number of placeholders before it. The walk ends at the first placeholder that
addresses nothing.
-/

namespace BraceTemplate

/-! ## Segments and their values -/

/-- The segment without the value it was given. -/
def BoundSegment.segment : BoundSegment → Segment
  | .literal t => .literal t
  | .bound p _ => .field p

def BoundSegment.binding? : BoundSegment → Option (Placeholder × Value)
  | .literal _ => none
  | .bound p v => some (p, v)

/-- The placeholders with their values, in order. -/
def bindings (bound : List BoundSegment) : List (Placeholder × Value) :=
  bound.filterMap BoundSegment.binding?

@[simp] theorem placeholders_nil : placeholders [] = [] := rfl

@[simp] theorem placeholders_literal (t : Text) (rest : List Segment) :
    placeholders (.literal t :: rest) = placeholders rest := rfl

@[simp] theorem placeholders_field (p : Placeholder) (rest : List Segment) :
    placeholders (.field p :: rest) = p :: placeholders rest := rfl

@[simp] theorem bindings_nil : bindings [] = [] := rfl

@[simp] theorem bindings_literal (t : Text) (rest : List BoundSegment) :
    bindings (.literal t :: rest) = bindings rest := rfl

@[simp] theorem bindings_bound (p : Placeholder) (v : Value) (rest : List BoundSegment) :
    bindings (.bound p v :: rest) = (p, v) :: bindings rest := rfl

/-! ## What a placeholder addresses -/

/-- The placeholder that `index` others precede addresses this value: the argument at that index,
the argument at the index it names, or the part of the first argument at the path it names. -/
inductive Addresses (args : List Value) (index : Nat) (p : Placeholder) (v : Value) : Prop where
  | anonymous (mode : p.mode = .anonymous) (found : args[index]? = some v)
  | positional (mode : p.mode = .positional) (found : args[Text.toNat p.address]? = some v)
  | keyed (mode : p.mode = .keyed) (root : Value) (first : args.head? = some root)
      (found : root.resolve p.address p.site = .ok v)

theorem Value.resolve_error {root : Value} {path : Text} {site : Option Site} {f : Fault}
    (h : root.resolve path site = .error f) : f = .ofCauseAt (.pathNotFound path) site := by
  unfold Value.resolve at h
  split at h
  · cases h
  · cases h
    rfl

theorem argumentOf_eq_ok_iff {args : List Value} {index : Nat} {p : Placeholder} {v : Value} :
    argumentOf args index p = .ok v ↔ Addresses args index p v := by
  constructor
  · intro h
    unfold argumentOf at h
    cases hm : p.mode with
    | anonymous =>
      cases hv : args[index]? with
      | none => simp [hm, hv] at h
      | some w =>
        simp only [hm, hv, Except.ok.injEq] at h
        exact .anonymous hm (h ▸ hv)
    | positional =>
      cases hv : args[Text.toNat p.address]? with
      | none => simp [hm, hv] at h
      | some w =>
        simp only [hm, hv, Except.ok.injEq] at h
        exact .positional hm (h ▸ hv)
    | keyed =>
      cases hroot : args.head? with
      | none => simp [hm, hroot] at h
      | some root =>
        simp only [hm, hroot] at h
        exact .keyed hm root hroot h
  · intro h
    cases h with
    | anonymous hm hv => simp [argumentOf, hm, hv]
    | positional hm hv => simp [argumentOf, hm, hv]
    | keyed hm root hroot hv => simp [argumentOf, hm, hroot, hv]

/-- The argument that a positional placeholder addresses is at the index it names. -/
theorem Addresses.lt_length {args : List Value} {index : Nat} {p : Placeholder} {v : Value}
    (h : Addresses args index p v) (hmode : p.mode = .positional) :
    Text.toNat p.address < args.length := by
  cases h with
  | anonymous mode => simp [hmode] at mode
  | positional mode found => exact (List.getElem?_eq_some_iff.mp found).1
  | keyed mode => simp [hmode] at mode

/-- What a keyed placeholder addresses in a single argument is at the path it names. -/
theorem Addresses.resolve_eq {root : Value} {index : Nat} {p : Placeholder} {v : Value}
    (h : Addresses [root] index p v) (hmode : p.mode = .keyed) :
    root.resolve p.address p.site = .ok v := by
  cases h with
  | anonymous mode => simp [hmode] at mode
  | positional mode => simp [hmode] at mode
  | keyed mode other first found =>
    obtain rfl : root = other := by simpa using first
    exact found

/-! ## Steps of the walk -/

section Steps

variable {args : List Value} {index : Nat} {rest : List Segment} {bound : List BoundSegment}
  {f : Fault}

theorem bindFrom_literal_eq_ok_iff {t : Text} :
    bindFrom args index (.literal t :: rest) = .ok bound ↔
      ∃ others, bindFrom args index rest = .ok others ∧ .literal t :: others = bound := by
  simp [bindFrom, bind_eq_ok_iff, pure, Except.pure]

theorem bindFrom_field_eq_ok_iff {p : Placeholder} :
    bindFrom args index (.field p :: rest) = .ok bound ↔
      ∃ v, Addresses args index p v ∧
        ∃ others, bindFrom args (index + 1) rest = .ok others ∧ .bound p v :: others = bound := by
  simp [bindFrom, bind_eq_ok_iff, pure, Except.pure, argumentOf_eq_ok_iff]

theorem bindFrom_literal_eq_error_iff {t : Text} :
    bindFrom args index (.literal t :: rest) = .error f ↔
      bindFrom args index rest = .error f := by
  simp [bindFrom, bind_eq_error_iff, pure, Except.pure]

theorem bindFrom_field_eq_error_iff {p : Placeholder} :
    bindFrom args index (.field p :: rest) = .error f ↔
      argumentOf args index p = .error f ∨
        ∃ v, Addresses args index p v ∧ bindFrom args (index + 1) rest = .error f := by
  simp [bindFrom, bind_eq_error_iff, pure, Except.pure, argumentOf_eq_ok_iff]

end Steps

/-! ## The walk -/

/-- A walk that succeeds keeps the segments and gives each placeholder what it addresses. -/
theorem bindFrom_ok {args : List Value} {index : Nat} {segments : List Segment}
    {bound : List BoundSegment} (h : bindFrom args index segments = .ok bound) :
    bound.map BoundSegment.segment = segments ∧
      ∀ i p v, (bindings bound)[i]? = some (p, v) → Addresses args (index + i) p v := by
  induction segments generalizing index bound with
  | nil =>
    simp only [bindFrom, Except.ok.injEq] at h
    subst h
    simp
  | cons s rest ih =>
    cases s with
    | literal t =>
      obtain ⟨others, hrest, rfl⟩ := bindFrom_literal_eq_ok_iff.mp h
      obtain ⟨hsegments, hvalues⟩ := ih hrest
      exact ⟨by simp [BoundSegment.segment, hsegments], hvalues⟩
    | field p =>
      obtain ⟨v, hv, others, hrest, rfl⟩ := bindFrom_field_eq_ok_iff.mp h
      obtain ⟨hsegments, hvalues⟩ := ih hrest
      refine ⟨by simp [BoundSegment.segment, hsegments], ?_⟩
      intro i q w hi
      cases i with
      | zero =>
        cases hi
        exact hv
      | succ i =>
        -- one more placeholder comes before those of the rest
        rw [show index + (i + 1) = index + 1 + i from by omega]
        exact hvalues i q w hi

theorem map_fst_bindings (bound : List BoundSegment) :
    (bindings bound).map Prod.fst = placeholders (bound.map BoundSegment.segment) := by
  induction bound with
  | nil => rfl
  | cons s rest ih =>
    cases s with
    | literal t => simpa [BoundSegment.segment] using ih
    | bound p v => simp [BoundSegment.segment, ih]

/-- After a walk that succeeds, every placeholder addresses something. -/
theorem addresses_of_bindFrom_ok {args : List Value} {index : Nat} {segments : List Segment}
    {bound : List BoundSegment} {p : Placeholder} (h : bindFrom args index segments = .ok bound)
    (hp : p ∈ placeholders segments) : ∃ i v, Addresses args i p v := by
  obtain ⟨hsegments, hvalues⟩ := bindFrom_ok h
  rw [← hsegments, ← map_fst_bindings] at hp
  obtain ⟨⟨q, v⟩, hmem, rfl⟩ := List.mem_map.mp hp
  obtain ⟨i, hi⟩ := List.mem_iff_getElem?.mp hmem
  exact ⟨index + i, v, hvalues i q v hi⟩

/-- A walk that fails, fails at the first placeholder that addresses nothing. -/
theorem bindFrom_error {args : List Value} {index : Nat} {segments : List Segment} {f : Fault}
    (h : bindFrom args index segments = .error f) :
    ∃ before p after, placeholders segments = before ++ p :: after ∧
      (∀ i q, before[i]? = some q → ∃ v, Addresses args (index + i) q v) ∧
      argumentOf args (index + before.length) p = .error f := by
  induction segments generalizing index with
  | nil => simp [bindFrom] at h
  | cons s rest ih =>
    cases s with
    | literal t => exact ih (bindFrom_literal_eq_error_iff.mp h)
    | field p =>
      rcases bindFrom_field_eq_error_iff.mp h with hp | ⟨v, hv, hrest⟩
      · exact ⟨[], p, placeholders rest, rfl, by simp, hp⟩
      · obtain ⟨before, q, after, hfields, hbefore, hq⟩ := ih hrest
        refine ⟨p :: before, q, after, by simp [hfields], ?_, ?_⟩
        · intro i r hi
          cases i with
          | zero =>
            cases hi
            exact ⟨v, hv⟩
          | succ i =>
            rw [show index + (i + 1) = index + 1 + i from by omega]
            exact hbefore i r hi
        · rw [List.length_cons, show index + (before.length + 1) = index + 1 + before.length from by
            omega]
          exact hq

/-- The two ends of a walk, when a placeholder that addresses something has a property: all of them
have it, or those before the first one that addresses nothing. -/
theorem bindFrom_ok_or_first_error {args : List Value} {segments : List Segment}
    {Suits : Placeholder → Prop}
    (hsuits : ∀ p ∈ placeholders segments, ∀ index v, Addresses args index p v → Suits p) :
    (∃ bound, bindFrom args 0 segments = .ok bound ∧ ∀ p ∈ placeholders segments, Suits p) ∨
      ∃ before p after f, bindFrom args 0 segments = .error f ∧
        placeholders segments = before ++ p :: after ∧ (∀ q ∈ before, Suits q) ∧
        argumentOf args before.length p = .error f := by
  cases hbind : bindFrom args 0 segments with
  | ok bound =>
    refine .inl ⟨bound, rfl, ?_⟩
    intro p hp
    obtain ⟨index, v, hv⟩ := addresses_of_bindFrom_ok hbind hp
    exact hsuits p hp index v hv
  | error f =>
    obtain ⟨before, p, after, hsplit, hbefore, hp⟩ := bindFrom_error hbind
    rw [Nat.zero_add] at hp
    refine .inr ⟨before, p, after, f, rfl, hsplit, ?_, hp⟩
    intro q hq
    obtain ⟨i, hi⟩ := List.mem_iff_getElem?.mp hq
    obtain ⟨v, hv⟩ := hbefore i q hi
    exact hsuits q (by simp [hsplit, hq]) _ v hv

end BraceTemplate
