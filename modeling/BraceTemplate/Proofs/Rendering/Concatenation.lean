import BraceTemplate.Proofs.Binding.Addresses
import BraceTemplate.Proofs.Rendering.Walk
import BraceTemplate.Proofs.Template.Seam

/-!
# Formatting templates one behind the other

A template behind a closed one is formatted as the two are: there is a text if both have one, and it
is the one behind the other. Without addresses, the first template takes the first arguments and the
second one those that are left. With addresses, both look into the same arguments.
-/

namespace BraceTemplate

/-! ## What segments come out as -/

/-- With these arguments the segments come out as this text, when `index` placeholders come before.
-/
inductive Yields (table : CodeTable) (args : List Value) : Nat → List Segment → Text → Prop where
  | nil {index} : Yields table args index [] []
  | literal {index t rest out} (others : Yields table args index rest out) :
      Yields table args index (.literal t :: rest) (t ++ out)
  | field {index p v own rest out} (value : Addresses args index p v)
      (shown : renderValue table v p.spec = .ok own)
      (others : Yields table args (index + 1) rest out) :
      Yields table args index (.field p :: rest) (own ++ out)

namespace Yields

variable {table : CodeTable} {args : List Value} {index : Nat} {rest : List Segment} {out : Text}

theorem nil_iff : Yields table args index [] out ↔ out = [] := by
  constructor
  · intro h
    cases h
    rfl
  · rintro rfl
    exact .nil

theorem literal_iff {t : Text} :
    Yields table args index (.literal t :: rest) out ↔
      ∃ others, Yields table args index rest others ∧ out = t ++ others := by
  constructor
  · intro h
    cases h with
    | literal others => exact ⟨_, others, rfl⟩
  · rintro ⟨others, hothers, rfl⟩
    exact .literal hothers

theorem field_iff {p : Placeholder} :
    Yields table args index (.field p :: rest) out ↔
      ∃ v own others, Addresses args index p v ∧ renderValue table v p.spec = .ok own ∧
        Yields table args (index + 1) rest others ∧ out = own ++ others := by
  constructor
  · intro h
    cases h with
    | field value shown others => exact ⟨_, _, _, value, shown, others, rfl⟩
  · rintro ⟨v, own, others, value, shown, hothers, rfl⟩
    exact .field value shown hothers

/-- Segments that come out as the same texts do so behind another segment. -/
theorem cons_congr {s : Segment} {rest' : List Segment}
    (h : ∀ index out, Yields table args index rest out ↔ Yields table args index rest' out) :
    Yields table args index (s :: rest) out ↔ Yields table args index (s :: rest') out := by
  cases s with
  | literal t => simp only [literal_iff, h]
  | field p => simp only [field_iff, h]

/-- The text of segments behind segments is the one text behind the other. -/
theorem append_iff {front back : List Segment} :
    Yields table args index (front ++ back) out ↔
      ∃ s t, Yields table args index front s ∧
        Yields table args (index + (placeholders front).length) back t ∧ out = s ++ t := by
  induction front generalizing index out with
  | nil => simp [nil_iff]
  | cons first front ih =>
    cases first with
    | literal u =>
      simp only [List.cons_append, literal_iff, ih, placeholders_literal]
      constructor
      · rintro ⟨-, ⟨s, t, hs, ht, rfl⟩, rfl⟩
        exact ⟨u ++ s, t, ⟨s, hs, rfl⟩, ht, by simp⟩
      · rintro ⟨-, t, ⟨s, hs, rfl⟩, ht, rfl⟩
        exact ⟨s ++ t, ⟨s, t, hs, ht, rfl⟩, by simp⟩
    | field p =>
      simp only [List.cons_append, field_iff, ih, placeholders_field, List.length_cons]
      -- one more placeholder comes before the others
      rw [show index + ((placeholders front).length + 1) =
        index + 1 + (placeholders front).length from by omega]
      constructor
      · rintro ⟨v, own, -, hv, hown, ⟨s, t, hs, ht, rfl⟩, rfl⟩
        exact ⟨own ++ s, t, ⟨v, own, s, hv, hown, hs, rfl⟩, ht, by simp⟩
      · rintro ⟨-, t, ⟨v, own, s, hv, hown, hs, rfl⟩, ht, rfl⟩
        exact ⟨v, own, s ++ t, hv, hown, ⟨s, t, hs, ht, rfl⟩, by simp⟩

/-- Texts that become one show what they show apart. -/
theorem attach_iff {s : Segment} :
    Yields table args index (attach s rest) out ↔ Yields table args index (s :: rest) out := by
  unfold attach
  split
  · simp only [literal_iff]
    constructor
    · rintro ⟨others, hothers, rfl⟩
      exact ⟨_, ⟨others, hothers, rfl⟩, by simp⟩
    · rintro ⟨-, ⟨others, hothers, rfl⟩, rfl⟩
      exact ⟨others, hothers, by simp⟩
  · rfl

theorem joinSegments_iff {front back : List Segment} :
    Yields table args index (joinSegments front back) out ↔
      Yields table args index (front ++ back) out := by
  induction front generalizing index out with
  | nil => rfl
  | cons s front ih =>
    rw [joinSegments, List.foldr_cons, attach_iff, List.cons_append]
    exact cons_congr fun index out => ih

end Yields

/-! ## Places and arguments -/

namespace Yields

variable {table : CodeTable} {args : List Value} {index : Nat} {out : Text}

theorem locate_iff (start : Position) {segments : List Segment} :
    Yields table args index (locate start segments) out ↔
      Yields table args index segments out := by
  induction segments generalizing start index out with
  | nil => rfl
  | cons s rest ih =>
    cases s with
    | literal t => simp only [locate, Segment.placedAt, literal_iff, ih]
    | field p =>
      simp only [locate, Segment.placedAt, field_iff, ih, addresses_placedAt]
      rfl

/-- Arguments that give the placeholders the same values give the segments the same text. -/
theorem args_congr {other : List Value} {index' : Nat} {segments : List Segment}
    (h : ∀ i < (placeholders segments).length, ∀ p ∈ placeholders segments, ∀ v,
      Addresses args (index + i) p v ↔ Addresses other (index' + i) p v) :
    Yields table args index segments out ↔ Yields table other index' segments out := by
  induction segments generalizing index index' out with
  | nil => simp only [nil_iff]
  | cons s rest ih =>
    cases s with
    | literal t => simp only [literal_iff, ih h]
    | field p =>
      have hp : ∀ v, Addresses args index p v ↔ Addresses other index' p v :=
        h 0 (by simp) p (by simp)
      have hrest : ∀ i < (placeholders rest).length, ∀ q ∈ placeholders rest, ∀ v,
          Addresses args (index + 1 + i) q v ↔ Addresses other (index' + 1 + i) q v := by
        intro i hi q hq v
        have hq' := h (i + 1) (by simpa using hi) q (by simp [hq]) v
        rwa [show index + (i + 1) = index + 1 + i from by omega,
          show index' + (i + 1) = index' + 1 + i from by omega] at hq'
      simp only [field_iff, hp, ih hrest]

end Yields

/-! ## Formatting -/

section Formatting

variable {table : CodeTable} {args : List Value} {named : List (Text × Value)}

theorem bindFrom_rendered_iff_yields {index : Nat} {segments : List Segment} {out : Text} :
    (∃ bound texts, bindFrom args index segments = .ok bound ∧ Rendered table bound texts ∧
      texts.flatten = out) ↔ Yields table args index segments out := by
  induction segments generalizing index out with
  | nil =>
    rw [Yields.nil_iff]
    constructor
    · rintro ⟨bound, texts, hbound, htexts, rfl⟩
      cases hbound
      cases htexts
      rfl
    · rintro rfl
      exact ⟨[], [], rfl, .nil, rfl⟩
  | cons s rest ih =>
    cases s with
    | literal t =>
      rw [Yields.literal_iff]
      constructor
      · rintro ⟨bound, texts, hbound, htexts, rfl⟩
        obtain ⟨others, hothers, rfl⟩ := bindFrom_literal_eq_ok_iff.mp hbound
        cases htexts with
        | literal hrest => exact ⟨_, ih.mp ⟨others, _, hothers, hrest, rfl⟩, rfl⟩
      · rintro ⟨others, hothers, rfl⟩
        obtain ⟨bound, texts, hbound, htexts, rfl⟩ := ih.mpr hothers
        exact ⟨.literal t :: bound, t :: texts, bindFrom_literal_eq_ok_iff.mpr ⟨_, hbound, rfl⟩,
          .literal htexts, rfl⟩
    | field p =>
      rw [Yields.field_iff]
      constructor
      · rintro ⟨bound, texts, hbound, htexts, rfl⟩
        obtain ⟨v, hv, others, hothers, rfl⟩ := bindFrom_field_eq_ok_iff.mp hbound
        cases htexts with
        | bound own hrest =>
          exact ⟨v, _, _, hv, own, ih.mp ⟨others, _, hothers, hrest, rfl⟩, rfl⟩
      · rintro ⟨v, own, others, hv, hown, hothers, rfl⟩
        obtain ⟨bound, texts, hbound, htexts, rfl⟩ := ih.mpr hothers
        exact ⟨.bound p v :: bound, own :: texts,
          bindFrom_field_eq_ok_iff.mpr ⟨v, hv, _, hbound, rfl⟩, .bound hown htexts, rfl⟩

/-- A template is formatted when the call suits it and its segments come out as a text. -/
theorem format_eq_ok_iff {template out : Text} :
    format table (.text template) args named = .ok out ↔
      WellAddressed (placeholders (scan template)) args named ∧
        Yields table (offered args named) 0 (scan template) out := by
  rw [← bindFrom_rendered_iff_yields]
  rcases linkOutcome (scan template) args named with
    ⟨bound, hlink, hw, hbind⟩ | ⟨f, hlink, hrejects⟩
  · rw [format_of_link hlink]
    constructor
    · intro hresult
      rcases rendered_or_first_error table bound with
        ⟨texts, htexts⟩ | ⟨before, p, v, after, texts, e, rfl, htexts, he⟩
      · rw [renderFrom_result_of_rendered htexts] at hresult
        exact ⟨hw, bound, texts, hbind, htexts, Except.ok.inj hresult⟩
      · rw [renderFrom_result_of_error htexts he] at hresult
        cases hresult
    · rintro ⟨-, other, texts, hother, htexts, rfl⟩
      obtain rfl : bound = other := Except.ok.inj (hbind.symm.trans hother)
      exact renderFrom_result_of_rendered htexts 0 0
  · rw [format, run_of_link_error hlink]
    constructor
    · intro hresult
      cases hresult
    · rintro ⟨hw, -⟩
      exact absurd hw hrejects.not_wellAddressed

end Formatting

/-! ## Formatting both templates -/

/-- The whole has a text if both parts have one, and that is the one behind the other. -/
def Joins (whole first second : Except Failure Text) : Prop :=
  ∀ out, whole = .ok out ↔ ∃ s t, first = .ok s ∧ second = .ok t ∧ out = s ++ t

section Concatenation

variable {table : CodeTable} {first second : Text} {args : List Value}
  {named : List (Text × Value)}

theorem wellAddressed_scan_append_iff (hclosed : ClosedSegments (scan first)) :
    WellAddressed (placeholders (scan (first ++ second))) args named ↔
      WellAddressed (placeholders (scan first) ++ placeholders (scan second)) args named := by
  have haddresses := addresses_locate .start (joinSegments (scan first) (scan second))
  rw [← scan_append hclosed, placeholders_joinSegments] at haddresses
  exact ⟨fun h => h.of_addresses haddresses, fun h => h.of_addresses haddresses.symm⟩

theorem yields_scan_append_iff (hclosed : ClosedSegments (scan first)) {out : Text} :
    Yields table args 0 (scan (first ++ second)) out ↔
      ∃ s t, Yields table args 0 (scan first) s ∧
        Yields table args (placeholders (scan first)).length (scan second) t ∧ out = s ++ t := by
  rw [scan_append hclosed, Yields.locate_iff, Yields.joinSegments_iff, Yields.append_iff,
    Nat.zero_add]

/-- The first template takes the first arguments, and the second one those that are left. -/
theorem yields_scan_append_anonymous_iff (hclosed : ClosedSegments (scan first))
    {front back : List Value} (hfirst : ∀ p ∈ placeholders (scan first), p.mode = .anonymous)
    (hsecond : ∀ p ∈ placeholders (scan second), p.mode = .anonymous)
    (hfront : (placeholders (scan first)).length = front.length) {out : Text} :
    Yields table (front ++ back) 0 (scan (first ++ second)) out ↔
      ∃ s t, Yields table front 0 (scan first) s ∧ Yields table back 0 (scan second) t ∧
        out = s ++ t := by
  have hleft : ∀ s, Yields table (front ++ back) 0 (scan first) s ↔
      Yields table front 0 (scan first) s := by
    intro s
    apply Yields.args_congr
    intro i hi p hp v
    rw [Nat.zero_add]
    exact addresses_append_left (hfirst p hp) (hfront ▸ hi)
  have hright : ∀ t, Yields table (front ++ back) front.length (scan second) t ↔
      Yields table back 0 (scan second) t := by
    intro t
    apply Yields.args_congr
    intro i hi p hp v
    rw [Nat.zero_add]
    exact addresses_append_right (hsecond p hp)
  rw [yields_scan_append_iff hclosed, hfront]
  simp only [hleft, hright]

end Concatenation

/-- **Formatting goes through a concatenation.** Let no brace of the first template be left open. If
no placeholder has an address and each template is given as many arguments as it has placeholders,
or if all have addresses of one sort and both templates are given the same arguments, then the whole
has a text just if both templates have one, and it is the one behind the other. -/
theorem format_append (table : CodeTable) {first second : Text}
    (hclosed : ∀ t, .literal t ∈ scan first → openBrace ∉ t) :
    (∀ front back, (∀ p ∈ placeholders (scan first), p.mode = .anonymous) →
      (∀ p ∈ placeholders (scan second), p.mode = .anonymous) →
      (placeholders (scan first)).length = front.length →
      (placeholders (scan second)).length = back.length →
      Joins (format table (.text (first ++ second)) (front ++ back) [])
        (format table (.text first) front []) (format table (.text second) back [])) ∧
      ∀ mode args named, mode ≠ .anonymous → InMode (placeholders (scan first)) mode →
        InMode (placeholders (scan second)) mode →
        Joins (format table (.text (first ++ second)) args named)
          (format table (.text first) args named) (format table (.text second) args named) := by
  constructor
  · intro front back hfirst hsecond hfront hback out
    have hboth : ∀ p ∈ placeholders (scan first) ++ placeholders (scan second),
        p.mode = .anonymous := List.forall_mem_append.mpr ⟨hfirst, hsecond⟩
    have hw : WellAddressed (placeholders (scan (first ++ second))) (front ++ back) [] :=
      (wellAddressed_scan_append_iff hclosed).mpr (.of_paired hboth (by simp [hfront, hback]))
    simp only [format_eq_ok_iff, hw, WellAddressed.of_paired hfirst hfront,
      WellAddressed.of_paired hsecond hback, true_and]
    exact yields_scan_append_anonymous_iff hclosed hfirst hsecond hfront
  · intro mode args named hmode hfirst hsecond out
    -- with an address, it makes no difference how many placeholders come before
    have hright : ∀ t, Yields table (offered args named) (placeholders (scan first)).length
        (scan second) t ↔ Yields table (offered args named) 0 (scan second) t := by
      intro t
      apply Yields.args_congr
      intro i hi p hp v
      have hp := hsecond.2 p hp
      exact addresses_index_iff (hp ▸ hmode)
    simp only [format_eq_ok_iff, wellAddressed_scan_append_iff hclosed,
      wellAddressed_append_iff hmode hfirst hsecond, yields_scan_append_iff hclosed, hright]
    constructor
    · rintro ⟨⟨hw, hw'⟩, s, t, hs, ht, rfl⟩
      exact ⟨s, t, ⟨hw, hs⟩, ⟨hw', ht⟩, rfl⟩
    · rintro ⟨s, t, ⟨hw, hs⟩, ⟨hw', ht⟩, rfl⟩
      exact ⟨⟨hw, hw'⟩, s, t, hs, ht, rfl⟩

/-- A stray brace, texts that become one, and a brace that stays open in the second template; and
two templates that look into the same arguments. -/
theorem format_append_of_open_brace :
    (∀ t, .literal t ∈ scan "a\x7d\x7b:3d\x7d-" → openBrace ∉ t) ∧
      (∀ p ∈ placeholders (scan "a\x7d\x7b:3d\x7d-"), p.mode = .anonymous) ∧
      (∀ p ∈ placeholders (scan "\x7d\x7b\x7d\x7b"), p.mode = .anonymous) ∧
      (placeholders (scan "a\x7d\x7b:3d\x7d-")).length = [Value.int 7].length ∧
      (placeholders (scan "\x7d\x7b\x7d\x7b")).length = [Value.text "\x7b\x7d"].length ∧
      format .builtin (.text "a\x7d\x7b:3d\x7d-\x7d\x7b\x7d\x7b") [.int 7, .text "\x7b\x7d"] [] =
        .ok "a\x7d  7-\x7d\x7b\x7d\x7b" ∧
      InMode (placeholders (scan "\x7b1\x7d-")) .positional ∧
      InMode (placeholders (scan "-\x7b0\x7d")) .positional ∧
      format .builtin (.text "\x7b1\x7d--\x7b0\x7d") [.text "a", .text "b"] [] = .ok "b--a" := by
  have hscan : scan "a\x7d\x7b:3d\x7d-" =
      [.literal "a\x7d", .field ⟨"", some "3d", ⟨1, 3⟩⟩, .literal "-"] := by cbv
  have hscan' : scan "\x7d\x7b\x7d\x7b" =
      [.literal "\x7d", .field ⟨"", none, ⟨1, 2⟩⟩, .literal "\x7b"] := by cbv
  have hclosed : ∀ t, .literal t ∈ scan "a\x7d\x7b:3d\x7d-" → openBrace ∉ t := by
    rw [hscan]
    intro t ht
    have ht' : t = ("a\x7d" : Text) ∨ t = ("-" : Text) := by simpa using ht
    rcases ht' with rfl | rfl <;> decide
  have hmode : ∀ p ∈ placeholders (scan "a\x7d\x7b:3d\x7d-"), p.mode = .anonymous := by
    rw [hscan]
    exact List.forall_mem_singleton.mpr rfl
  have hmode' : ∀ p ∈ placeholders (scan "\x7d\x7b\x7d\x7b"), p.mode = .anonymous := by
    rw [hscan']
    exact List.forall_mem_singleton.mpr rfl
  have hcount : (placeholders (scan "a\x7d\x7b:3d\x7d-")).length = [Value.int 7].length := by
    rw [hscan]
    rfl
  have hcount' : (placeholders (scan "\x7d\x7b\x7d\x7b")).length =
      [Value.text "\x7b\x7d"].length := by
    rw [hscan']
    rfl
  have hnumber : renderValue .builtin (.int 7) (some "3d") = .ok "  7" := by
    simp only [renderValue]
    rfl
  have hfirst : format .builtin (.text "a\x7d\x7b:3d\x7d-") [.int 7] [] =
      .ok (("a\x7d" : Text) ++ (("  7" : Text) ++ (("-" : Text) ++ []))) := by
    rw [format_eq_ok_iff]
    refine ⟨.of_paired hmode hcount, ?_⟩
    rw [hscan]
    exact .literal (.field (.anonymous rfl rfl) hnumber (.literal .nil))
  have hsecond : format .builtin (.text "\x7d\x7b\x7d\x7b") [.text "\x7b\x7d"] [] =
      .ok (("\x7d" : Text) ++ (("\x7b\x7d" : Text) ++ (("\x7b" : Text) ++ []))) := by
    rw [format_eq_ok_iff]
    refine ⟨.of_paired hmode' hcount', ?_⟩
    rw [hscan']
    exact .literal (.field (.anonymous rfl rfl) rfl (.literal .nil))
  have hjoins := (format_append .builtin hclosed).1 [.int 7] [.text "\x7b\x7d"] hmode hmode' hcount
    hcount'
  have hscan₁ : scan "\x7b1\x7d-" = [.field ⟨"1", none, ⟨1, 1⟩⟩, .literal "-"] := by cbv
  have hscan₀ : scan "-\x7b0\x7d" = [.literal "-", .field ⟨"0", none, ⟨1, 2⟩⟩] := by cbv
  have hclosed₁ : ∀ t, .literal t ∈ scan "\x7b1\x7d-" → openBrace ∉ t := by
    rw [hscan₁]
    intro t ht
    obtain rfl : t = ("-" : Text) := by simpa using ht
    decide
  have hmode₁ : InMode (placeholders (scan "\x7b1\x7d-")) .positional := by
    rw [hscan₁]
    exact ⟨by simp, List.forall_mem_singleton.mpr rfl⟩
  have hmode₀ : InMode (placeholders (scan "-\x7b0\x7d")) .positional := by
    rw [hscan₀]
    exact ⟨by simp, List.forall_mem_singleton.mpr rfl⟩
  have hformat₁ : format .builtin (.text "\x7b1\x7d-") [.text "a", .text "b"] [] =
      .ok (("b" : Text) ++ (("-" : Text) ++ [])) := by
    rw [format_eq_ok_iff]
    refine ⟨.of_positional hmode₁ rfl ?_, ?_⟩
    · rw [hscan₁]
      exact List.forall_mem_singleton.mpr (by decide)
    · rw [hscan₁]
      exact .field (.positional rfl rfl) rfl (.literal .nil)
  have hformat₀ : format .builtin (.text "-\x7b0\x7d") [.text "a", .text "b"] [] =
      .ok (("-" : Text) ++ (("a" : Text) ++ [])) := by
    rw [format_eq_ok_iff]
    refine ⟨.of_positional hmode₀ rfl ?_, ?_⟩
    · rw [hscan₀]
      exact List.forall_mem_singleton.mpr (by decide)
    · rw [hscan₀]
      exact .literal (.field (.positional rfl rfl) rfl .nil)
  have hjoins' := (format_append .builtin hclosed₁).2 .positional [.text "a", .text "b"] []
    (by decide) hmode₁ hmode₀
  exact ⟨hclosed, hmode, hmode', hcount, hcount', (hjoins _).mpr ⟨_, _, hfirst, hsecond, rfl⟩,
    hmode₁, hmode₀, (hjoins' _).mpr ⟨_, _, hformat₁, hformat₀, rfl⟩⟩

end BraceTemplate
