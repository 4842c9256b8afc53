import BraceTemplate.Address.Path
import Mathlib.Data.List.Chain

/-!
# Spellings of a path

A path writes its first step as it is and each further one behind a dot or in brackets. The steps
can be read back from every spelling, but for a dot right behind a closing bracket, where an empty
step is read in between. So a path leads to the same part in all spellings without such a dot.
-/

namespace BraceTemplate.Path

/-! ## Writing steps -/

/-- How a step is joined to the path before it. -/
inductive Joint where
  | dot
  | brackets
deriving DecidableEq

namespace Joint

def opening : Joint → CodePoint
  | .dot => '.'
  | .brackets => '['

def closing : Joint → Text
  | .dot => []
  | .brackets => [']']

/-- A step as it is written in this way. -/
def write (joint : Joint) (key : Text) : Text :=
  joint.opening :: key ++ joint.closing

end Joint

/-- The path of a first step and of further ones, each written in its own way. -/
def spelling (first : Text) (rest : List (Joint × Text)) : Text :=
  first ++ rest.flatMap fun step => step.1.write step.2

/-- A step that every way to write it keeps apart from the others. -/
structure IsKey (key : Text) : Prop where
  nonempty : key ≠ []
  dot : ('.' : CodePoint) ∉ key
  openBracket : ('[' : CodePoint) ∉ key
  closeBracket : (']' : CodePoint) ∉ key

/-- No dot stands right behind a closing bracket. -/
def Separate (steps : List (Joint × Text)) : Prop :=
  steps.IsChain fun before step => before.1 = .brackets → step.1 ≠ .dot

instance (key : Text) : Decidable (IsKey key) :=
  decidable_of_iff
    (key ≠ [] ∧ ('.' : CodePoint) ∉ key ∧ ('[' : CodePoint) ∉ key ∧ (']' : CodePoint) ∉ key)
    ⟨fun ⟨hne, hdot, hopen, hclose⟩ => ⟨hne, hdot, hopen, hclose⟩,
      fun ⟨hne, hdot, hopen, hclose⟩ => ⟨hne, hdot, hopen, hclose⟩⟩

instance (steps : List (Joint × Text)) : Decidable (Separate steps) :=
  inferInstanceAs (Decidable (List.IsChain _ _))

/-- What is read behind a step: the further steps, and an empty one in front of each step whose dot
is right behind a bracket. -/
def stepsBehind : Joint → List (Joint × Text) → List Text
  | _, [] => []
  | before, (joint, key) :: rest =>
    (if before = .brackets ∧ joint = .dot then [[]] else []) ++ key :: stepsBehind joint rest

/-! ## The bracket at the end -/

/-- What is written behind a step, its own closing bracket included, but for a bracket at the very
end. -/
def unclosed : Joint → List (Joint × Text) → Text
  | _, [] => []
  | before, (joint, key) :: rest =>
    before.closing ++ joint.opening :: key ++ unclosed joint rest

/-- How the last step is written. -/
def lastJoint (before : Joint) (rest : List (Joint × Text)) : Joint :=
  rest.foldl (fun _ step => step.1) before

theorem closing_append_writes (before : Joint) (rest : List (Joint × Text)) :
    (before.closing ++ rest.flatMap fun step => step.1.write step.2) =
      unclosed before rest ++ (lastJoint before rest).closing := by
  induction rest generalizing before with
  | nil => simp [unclosed, lastJoint]
  | cons step rest ih =>
    obtain ⟨joint, key⟩ := step
    rw [unclosed, lastJoint, List.foldl_cons, List.append_assoc, ← lastJoint, ← ih joint]
    simp [Joint.write]

theorem dropLastBracket_concat (t : Text) : dropLastBracket (t ++ ([']'] : Text)) = t := by
  simp [dropLastBracket]

/-- A bracket is dropped at the end and before the last character, and nowhere else. -/
theorem dropLastBracket_eq_self {t : Text} {last : CodePoint} (hlast : last ≠ ']')
    (ht : t.getLast? ≠ some (']' : CodePoint)) : dropLastBracket (t ++ [last]) = t ++ [last] := by
  rw [List.getLast?_eq_head?_reverse] at ht
  unfold dropLastBracket
  split
  · rename_i hreverse
    simp [hlast] at hreverse
  · rename_i hreverse
    simp only [List.reverse_append, List.reverse_cons, List.reverse_nil, List.nil_append,
      List.cons_append, List.cons.injEq] at hreverse
    simp [hreverse.2] at ht
  · rfl

namespace IsKey

variable {key : Text}

theorem isBracket_eq_false (h : IsKey key) : ∀ c ∈ key, isBracket c = false := by
  intro c hc
  have hopen : c ≠ '[' := ne_of_mem_of_not_mem hc h.openBracket
  have hclose : c ≠ ']' := ne_of_mem_of_not_mem hc h.closeBracket
  simp [isBracket, hopen, hclose]

/-- Nothing is dropped behind a step, also if that ends in a line feed. -/
theorem dropLastBracket_append (h : IsKey key) {t : Text}
    (ht : t.getLast? ≠ some (']' : CodePoint)) :
    dropLastBracket (t ++ key) = t ++ key := by
  obtain ⟨init, last, rfl⟩ := (List.eq_nil_or_concat key).resolve_left h.nonempty
  rw [List.concat_eq_append] at h ⊢
  have hlast : last ≠ ']' := ne_of_mem_of_not_mem (by simp) h.closeBracket
  have hinit : (t ++ init).getLast? ≠ some (']' : CodePoint) := by
    rw [List.getLast?_append]
    cases hlastInit : init.getLast? with
    | none => simpa using ht
    | some c =>
      have hc : c ∈ init ++ [last] := List.mem_append_left _ (List.mem_of_getLast? hlastInit)
      simpa using ne_of_mem_of_not_mem hc h.closeBracket
  rw [← List.append_assoc]
  exact dropLastBracket_eq_self hlast hinit

end IsKey

/-- The closing bracket of the last step is dropped, and nothing else. -/
theorem dropLastBracket_unclosed {t key : Text} {before : Joint} {rest : List (Joint × Text)}
    (hkey : IsKey key) (hrest : ∀ step ∈ rest, IsKey step.2)
    (ht : before = .dot → t.getLast? ≠ some (']' : CodePoint)) :
    dropLastBracket (t ++ key ++ unclosed before rest ++ (lastJoint before rest).closing) =
      t ++ key ++ unclosed before rest := by
  induction rest generalizing t key before with
  | nil =>
    cases before with
    | dot => simpa [unclosed, lastJoint, Joint.closing] using hkey.dropLastBracket_append (ht rfl)
    | brackets => exact dropLastBracket_concat _
  | cons step rest ih =>
    obtain ⟨joint, next⟩ := step
    obtain ⟨hnext, hothers⟩ := List.forall_mem_cons.mp hrest
    have hopening : joint = .dot →
        (t ++ key ++ before.closing ++ [joint.opening]).getLast? ≠ some (']' : CodePoint) := by
      rintro rfl
      simp [Joint.opening]
    have hdrop := ih hnext hothers hopening
    simpa [unclosed, lastJoint, List.append_assoc] using hdrop

/-! ## Reading steps -/

theorem dotted_append {t : Text} (h : ∀ c ∈ t, isBracket c = false) (rest : Text) :
    dotted (t ++ rest) = t ++ dotted rest := by
  induction t with
  | nil => rfl
  | cons c t ih =>
    obtain ⟨hc, ht⟩ := List.forall_mem_cons.mp h
    rw [List.cons_append, dotted, if_neg (by simp [hc]), ih ht]
    rfl

/-- The bracket before a step is read as a dot, whatever run of brackets it ends. -/
theorem dotted_bracket {key : Text} (h : IsKey key) {c : CodePoint} (hc : isBracket c = true)
    (rest : Text) : dotted (c :: key ++ rest) = ('.' : CodePoint) :: key ++ dotted rest := by
  have hplain := h.isBracket_eq_false
  cases key with
  | nil => exact absurd rfl h.nonempty
  | cons first key =>
    have hfirst : isBracket first = false := hplain first List.mem_cons_self
    have hbehind := dotted_append hplain rest
    rw [List.cons_append, dotted, if_pos hc, hbehind]
    simp [hfirst]

/-- Every step is behind a dot, and two dots stand for a bracket and a dot. -/
theorem dotted_unclosed {before : Joint} {rest : List (Joint × Text)}
    (h : ∀ step ∈ rest, IsKey step.2) :
    dotted (unclosed before rest) = (stepsBehind before rest).flatMap (('.' : CodePoint) :: ·) := by
  induction rest generalizing before with
  | nil => rfl
  | cons step rest ih =>
    obtain ⟨joint, key⟩ := step
    obtain ⟨hkey, hothers⟩ := List.forall_mem_cons.mp h
    have hbehind := @ih joint hothers
    have hdot : dotted (('.' : CodePoint) :: key ++ unclosed joint rest) =
        ('.' : CodePoint) :: key ++ dotted (unclosed joint rest) :=
      dotted_append (List.forall_mem_cons.mpr ⟨rfl, hkey.isBracket_eq_false⟩) _
    have hbracket : dotted (('[' : CodePoint) :: key ++ unclosed joint rest) =
        ('.' : CodePoint) :: key ++ dotted (unclosed joint rest) := dotted_bracket hkey rfl _
    rw [hbehind] at hdot hbracket
    cases before <;> cases joint
    case dot.dot => simpa [unclosed, stepsBehind, Joint.opening, Joint.closing] using hdot
    case dot.brackets => simpa [unclosed, stepsBehind, Joint.opening, Joint.closing] using hbracket
    case brackets.dot =>
      have hclosing : dotted (']' :: (('.' : CodePoint) :: key ++ unclosed .dot rest)) =
          ('.' : CodePoint) :: dotted (('.' : CodePoint) :: key ++ unclosed .dot rest) := by
        rw [dotted]
        rfl
      rw [hdot] at hclosing
      simpa [unclosed, stepsBehind, Joint.opening, Joint.closing] using hclosing
    case brackets.brackets =>
      -- two brackets are one run, and make one dot
      have hclosing : dotted (']' :: (('[' : CodePoint) :: key ++ unclosed .brackets rest)) =
          dotted (('[' : CodePoint) :: key ++ unclosed .brackets rest) := by
        rw [dotted]
        rfl
      rw [hbracket] at hclosing
      simpa [unclosed, stepsBehind, Joint.opening, Joint.closing] using hclosing

theorem not_mem_of_mem_stepsBehind {before : Joint} {rest : List (Joint × Text)}
    (h : ∀ step ∈ rest, IsKey step.2) :
      ∀ key ∈ stepsBehind before rest, ('.' : CodePoint) ∉ key := by
  induction rest generalizing before with
  | nil => simp [stepsBehind]
  | cons step rest ih =>
    obtain ⟨joint, key⟩ := step
    obtain ⟨hkey, hothers⟩ := List.forall_mem_cons.mp h
    intro other hother
    rw [stepsBehind, List.mem_append, List.mem_cons] at hother
    rcases hother with hempty | rfl | hother
    · split at hempty
      · simp [List.mem_singleton.mp hempty]
      · simp at hempty
    · exact hkey.dot
    · exact ih hothers other hother

theorem intercalate_dot (first : Text) (others : List Text) :
    (['.'] : Text).intercalate (first :: others) =
      first ++ others.flatMap (('.' : CodePoint) :: ·) := by
  induction others generalizing first with
  | nil => simp
  | cons key others ih => simp [ih]

/-- The steps that are read back from a spelling. -/
theorem steps_spelling {first : Text} {rest : List (Joint × Text)} (hfirst : IsKey first)
    (hrest : ∀ step ∈ rest, IsKey step.2) :
    steps (spelling first rest) = first :: stepsBehind .dot rest := by
  have hspelling : spelling first rest =
      [] ++ first ++ unclosed .dot rest ++ (lastJoint .dot rest).closing := by
    rw [List.append_assoc, ← closing_append_writes]
    rfl
  rw [steps, hspelling, dropLastBracket_unclosed hfirst hrest (by simp), List.nil_append,
    dotted_append hfirst.isBracket_eq_false, dotted_unclosed hrest, ← intercalate_dot]
  apply List.splitOn_intercalate
  · exact List.forall_mem_cons.mpr ⟨hfirst.dot, not_mem_of_mem_stepsBehind hrest⟩
  · exact List.cons_ne_nil _ _

/-- No empty step is read in between just if no dot is right behind a closing bracket. -/
theorem stepsBehind_eq_iff {before : Joint × Text} {rest : List (Joint × Text)}
    (h : ∀ step ∈ rest, IsKey step.2) :
    stepsBehind before.1 rest = rest.map Prod.snd ↔ Separate (before :: rest) := by
  induction rest generalizing before with
  | nil => simp [stepsBehind, Separate]
  | cons step rest ih =>
    obtain ⟨hkey, hothers⟩ := List.forall_mem_cons.mp h
    have hseparate : Separate (before :: step :: rest) ↔
        (before.1 = .brackets → step.1 ≠ .dot) ∧ Separate (step :: rest) :=
      List.isChain_cons_cons
    rw [hseparate, ← ih hothers, stepsBehind]
    by_cases hempty : before.1 = .brackets ∧ step.1 = .dot
    · have hne : step.2 ≠ [] := hkey.nonempty
      simp [hempty, hne.symm]
    · simp only [hempty, if_false, List.nil_append, List.map_cons, List.cons.injEq, true_and]
      exact (and_iff_right fun hbrackets hdot => hempty ⟨hbrackets, hdot⟩).symm

/-! ## Following paths -/

/-- Where a path leads, and the kind of the fault if it leads nowhere, depend on its steps alone. -/
theorem resolve_mapError_kind (v : Value) (path : Text) (site : Option Site) :
    (v.resolve path site).mapError Fault.kind =
      match v.walk? (steps path) with
      | some part => .ok part
      | none => .error .address := by
  unfold Value.resolve
  cases v.walk? (steps path) with
  | some part => rfl
  | none => cases site <;> rfl

/-- **The spellings of a path are equivalent unless a dot is right behind a closing bracket.** All
steps are read back, with an empty one in front of each such dot, so that they are just those that
were written exactly if there is no such dot. All spellings without one lead to the same part or to
a fault of the same kind. -/
theorem steps_spelling_eq_iff {first : Text} {rest : List (Joint × Text)} (hfirst : IsKey first)
    (hrest : ∀ step ∈ rest, IsKey step.2) :
    steps (spelling first rest) = first :: stepsBehind .dot rest ∧
      (steps (spelling first rest) = first :: rest.map Prod.snd ↔ Separate rest) ∧
      (Separate rest → ∀ other, other.map Prod.snd = rest.map Prod.snd → Separate other →
        ∀ (v : Value) site otherSite,
          (v.resolve (spelling first other) otherSite).mapError Fault.kind =
            (v.resolve (spelling first rest) site).mapError Fault.kind) := by
  have hiff : ∀ spelled : List (Joint × Text), (∀ step ∈ spelled, IsKey step.2) →
      (steps (spelling first spelled) = first :: spelled.map Prod.snd ↔ Separate spelled) := by
    intro spelled hspelled
    have hfront : Separate ((.dot, first) :: spelled) ↔ Separate spelled := by
      simp [Separate, List.isChain_cons]
    rw [steps_spelling hfirst hspelled, ← hfront, ← stepsBehind_eq_iff hspelled]
    simp
  refine ⟨steps_spelling hfirst hrest, hiff rest hrest, ?_⟩
  intro hseparate other hsame hother v site otherSite
  have hkeys : ∀ step ∈ other, IsKey step.2 := by
    rw [← List.forall_mem_map (f := Prod.snd), hsame, List.forall_mem_map]
    exact hrest
  rw [resolve_mapError_kind, resolve_mapError_kind, (hiff rest hrest).mpr hseparate,
    (hiff other hkeys).mpr hother, hsame]

/-- A mapping three steps deep. -/
def nested : Value :=
  .mapping "dict" [(.text "a",
    .mapping "dict" [(.text "b", .mapping "dict" [(.text "c", .text "x")])])]

/-- The two spellings with brackets at the end lead to the same part as the one with dots. -/
theorem steps_spelling_eq_of_brackets :
    IsKey "a" ∧ (∀ step ∈ [(Joint.brackets, ("b" : Text)), (.brackets, "c")], IsKey step.2) ∧
      Separate [(.brackets, "b"), (.brackets, "c")] ∧ Separate [(.dot, "b"), (.brackets, "c")] ∧
      steps "a[b][c]" = ["a", "b", "c"] ∧
      (nested.resolve "a.b[c]" none).mapError Fault.kind =
        (nested.resolve "a[b][c]" none).mapError Fault.kind := by
  have hfirst : IsKey "a" := by decide
  have hrest : ∀ step ∈ [(Joint.brackets, ("b" : Text)), (.brackets, "c")], IsKey step.2 := by
    decide
  have hseparate : Separate [(.brackets, "b"), (.brackets, "c")] := by decide
  have hother : Separate [(.dot, "b"), (.brackets, "c")] := by decide
  obtain ⟨-, hiff, hresolve⟩ := steps_spelling_eq_iff hfirst hrest
  exact ⟨hfirst, hrest, hseparate, hother, hiff.mpr hseparate,
    hresolve hseparate [(.dot, "b"), (.brackets, "c")] rfl hother nested none none⟩

/-- A dot right behind a closing bracket: an empty step is read in between, and the path leads
nowhere, though the same steps lead somewhere with dots. -/
theorem not_steps_spelling_of_dot_behind_bracket :
    IsKey "a" ∧ (∀ step ∈ [(Joint.brackets, ("b" : Text)), (.dot, "c")], IsKey step.2) ∧
      spelling "a" [(.brackets, "b"), (.dot, "c")] = "a[b].c" ∧
      steps "a[b].c" = ["a", "b", "", "c"] ∧ steps "a[b].c" ≠ ["a", "b", "c"] ∧
      (nested.resolve "a[b].c" none).mapError Fault.kind = .error .address ∧
      (nested.resolve "a.b.c" none).mapError Fault.kind = .ok (.text "x") := by
  refine ⟨by decide, by decide, by decide, by decide, by decide, rfl, rfl⟩

end BraceTemplate.Path
