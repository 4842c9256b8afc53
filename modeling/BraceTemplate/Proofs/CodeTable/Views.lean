import BraceTemplate.Proofs.CodeTable.Consistent
import Mathlib.Logic.Relation

/-!
# Views of a code table

A consistent table is asked in four ways what codes it has: it lists them, it says whether it
contains one, it finds the renderer of one, and it names one for each kind of value. All four agree,
over every history of extensions.
-/

namespace BraceTemplate.CodeTable

/-! ## Listing -/

/-- A text goes into an ascending list at its place, or is there already. -/
theorem insertAscending_text (t : Text) {names : List Text} (h : names.Pairwise (· < ·)) :
    ∃ more : List Text,
      insertAscending (.text t) (names.map Value.text) = .ok (more.map Value.text) ∧
        more.Pairwise (· < ·) ∧ ∀ c, c ∈ more ↔ c = t ∨ c ∈ names := by
  induction names with
  | nil => exact ⟨[t], rfl, List.pairwise_singleton _ _, by simp⟩
  | cons other rest ih =>
    obtain ⟨hother, hrest⟩ := List.pairwise_cons.mp h
    rw [List.map_cons, insertAscending]
    by_cases heq : other = t
    · subst heq
      rw [if_pos (by simp [Value.sameKey])]
      exact ⟨other :: rest, rfl, h, by simp⟩
    · rw [if_neg (by simpa [Value.sameKey] using heq)]
      simp only [Value.precedes?]
      by_cases hlt : other < t
      · obtain ⟨more, hinsert, hmore, hmem⟩ := ih hrest
        refine ⟨other :: more, by simp [hlt, hinsert, Except.map], ?_, ?_⟩
        · refine List.pairwise_cons.mpr ⟨?_, hmore⟩
          intro c hc
          rcases (hmem c).mp hc with rfl | hc
          · exact hlt
          · exact hother c hc
        · intro c
          rw [List.mem_cons, hmem, List.mem_cons, or_left_comm]
      · have hafter : t < other := Decidable.byContradiction fun hbefore =>
          heq (List.le_antisymm (List.not_lt.mp hbefore) (List.not_lt.mp hlt))
        refine ⟨t :: other :: rest, by simp [hlt], ?_, by simp⟩
        refine List.pairwise_cons.mpr ⟨?_, h⟩
        intro c hc
        rcases List.mem_cons.mp hc with rfl | hc
        · exact hafter
        · exact List.lt_trans hafter (hother c hc)

theorem foldrM_insertAscending (texts : List Text) :
    ∃ names : List Text,
      (texts.map Value.text).foldrM insertAscending [] = .ok (names.map Value.text) ∧
        names.Pairwise (· < ·) ∧ ∀ c, c ∈ names ↔ c ∈ texts := by
  induction texts with
  | nil => exact ⟨[], rfl, .nil, by simp⟩
  | cons t texts ih =>
    obtain ⟨names, hfold, hnames, hmem⟩ := ih
    obtain ⟨more, hinsert, hmore, hmore_mem⟩ := insertAscending_text t hnames
    refine ⟨more, ?_, hmore, ?_⟩
    · rw [List.map_cons, List.foldrM_cons, hfold]
      exact hinsert
    · intro c
      rw [hmore_mem, hmem, List.mem_cons]

theorem exists_texts {names : List Value} (h : ∀ name ∈ names, isCodeName name = true) :
    ∃ texts : List Text, names = texts.map Value.text := by
  induction names with
  | nil => exact ⟨[], rfl⟩
  | cons name rest ih =>
    obtain ⟨hname, hrest⟩ := List.forall_mem_cons.mp h
    obtain ⟨t, rfl⟩ := exists_text_of_isCodeName hname
    obtain ⟨texts, rfl⟩ := ih hrest
    exact ⟨t :: texts, rfl⟩

/-! ## Lookups in a consistent table -/

/-- All codes and aliases of a table. -/
def names (table : CodeTable) : List Value :=
  table.handlers.map (·.1) ++ table.aliases.map (·.1)

namespace Consistent

variable {table : CodeTable}

theorem isCodeName_of_mem_names (h : table.Consistent) :
    ∀ name ∈ table.names, isCodeName name = true := by
  intro name hmem
  rcases List.mem_append.mp hmem with hmem | hmem
  · obtain ⟨entry, hentry, rfl⟩ := List.mem_map.mp hmem
    exact (h.handlers entry hentry).1
  · obtain ⟨entry, hentry, rfl⟩ := List.mem_map.mp hmem
    exact (h.aliases entry hentry).1

/-- An alias stands for a code of the table, and any other name for itself. -/
theorem target_cases (h : table.Consistent) (t : Text) :
    (Value.text t ∈ table.aliases.map (·.1) ∧
        (table.handler? (table.target (.text t))).isSome = true) ∨
      (Value.text t ∉ table.aliases.map (·.1) ∧ table.target (.text t) = .text t) := by
  rw [← Entries.isSome_find?_iff (Value.alone_text t), target]
  cases hfind : Entries.find? (Value.sameKey · (.text t)) table.aliases with
  | none => exact .inr ⟨by simp, rfl⟩
  | some target =>
    obtain ⟨key, hmem, -⟩ := Entries.exists_of_find? hfind
    exact .inl ⟨rfl, (h.aliases _ hmem).2⟩

theorem isSome_handler?_target (h : table.Consistent) (t : Text) :
    (table.handler? (table.target (.text t))).isSome = true ↔ Value.text t ∈ table.names := by
  rw [names, List.mem_append]
  rcases h.target_cases t with ⟨hmem, hsome⟩ | ⟨hmem, htarget⟩
  · exact ⟨fun _ => .inr hmem, fun _ => hsome⟩
  · rw [htarget, handler?, Entries.isSome_find?_iff (Value.alone_text t)]
    simp [hmem]

theorem checkKey_target (h : table.Consistent) (t : Text) :
    (table.target (.text t)).checkKey = .ok () := by
  rcases h.target_cases t with ⟨-, hsome⟩ | ⟨-, htarget⟩
  · obtain ⟨u, hu⟩ := exists_text_of_handler? h.handlers hsome
    rw [hu]
    rfl
  · rw [htarget]
    rfl

end Consistent

/-! ## The four views -/

/-- The codes of a table are these: they are listed in ascending order, each once, the table
contains them and no others, and it finds renderers for them and for no others. -/
structure HasCodes (table : CodeTable) (codes : List Text) : Prop where
  listed : table.codes = .ok (codes.map Value.text)
  ascending : codes.Pairwise (· < ·)
  contains_eq : ∀ c, table.contains (.text c) = .ok (decide (c ∈ codes))
  renderer_of_mem : ∀ c ∈ codes, ∃ r, ∀ spec, table.renderer (.text c) spec = .ok r
  renderer_of_not_mem : ∀ c, c ∉ codes → ∀ spec,
    table.renderer (.text c) spec = .error (.ofCause (.unknownCode (.text c) spec))

theorem Consistent.exists_hasCodes {table : CodeTable} (h : table.Consistent) :
    ∃ codes, table.HasCodes codes := by
  obtain ⟨texts, htexts⟩ := exists_texts h.isCodeName_of_mem_names
  obtain ⟨codes, hlisted, hascending, hmem⟩ := foldrM_insertAscending texts
  have hcodes : ∀ c, c ∈ codes ↔ (table.handler? (table.target (.text c))).isSome = true := by
    intro c
    rw [h.isSome_handler?_target, htexts, hmem]
    simp
  refine ⟨codes, ?_, hascending, ?_, ?_, ?_⟩
  · rw [← hlisted, ← htexts]
    rfl
  · intro c
    rw [contains, holds, h.checkKey_target]
    simp [hcodes, bind, Except.bind, pure, Except.pure]
  · intro c hc
    obtain ⟨handler, hhandler⟩ := Option.isSome_iff_exists.mp ((hcodes c).mp hc)
    obtain ⟨r, -, hr⟩ := renderer_of_handler? h.handlers hhandler
    exact ⟨r, hr⟩
  · intro c hc spec
    have hnone : table.handler? (table.target (.text c)) = none := by
      simpa using mt (hcodes c).mpr hc
    rw [renderer, h.checkKey_target, hnone]
    rfl

/-- The default code of a kind is in the table. -/
theorem Consistent.contains_defaultCode {table : CodeTable} (h : table.Consistent) {v : Value}
    {kind : Kind} {code : Value} (hkind : v.kind? = some kind)
    (hcode : Entries.find? (· == kind) table.defaults = some code) :
    table.defaultCode v = .ok code ∧ table.contains code = .ok true := by
  obtain ⟨key, hmem, -⟩ := Entries.exists_of_find? hcode
  have hsome := h.defaults _ hmem
  obtain ⟨t, rfl⟩ := exists_text_of_handler? h.handlers hsome
  refine ⟨by simp [defaultCode, hkind, hcode], ?_⟩
  rw [contains, holds_eq_true_iff h.handlers]
  -- the code may also be an alias, which then stands for another code of the table
  rcases h.target_cases t with ⟨-, htarget⟩ | ⟨-, htarget⟩
  · exact htarget
  · rwa [htarget]

/-! ## Histories -/

/-- The second table is an extension of the first one. -/
def Extends (table extended : CodeTable) : Prop :=
  ∃ codes, table.extend codes = .ok extended

theorem consistent_of_history {table later : CodeTable} (h : table.Consistent)
    (hlater : Relation.ReflTransGen Extends table later) : later.Consistent := by
  induction hlater with
  | refl => exact h
  | tail _ hstep _ =>
    obtain ⟨codes, hextend⟩ := hstep
    exact ensureConsistent_eq_ok_iff.mp (consistent_of_extend hextend)

/-- **A table stays consistent, and its views agree.** What an extension gives is consistent,
whatever is extended. Over every history of extensions of a consistent table, a further extension is
refused for its first code that is no proper name or has no renderer, by a fault of codes, and for
nothing else; the codes that are listed, contained and found are the same, listed in ascending order
and each once; and the default code of a value is one of them. -/
theorem views_agree_over_history :
    (∀ table codes extended, extend table codes = .ok extended →
      extended.ensureConsistent = .ok ()) ∧
      ∀ table later : CodeTable, table.ensureConsistent = .ok () →
        Relation.ReflTransGen Extends table later →
        later.ensureConsistent = .ok () ∧
          (∀ codes, HasKeys codes →
            (∀ entry, (dictionary codes).find? (fun entry => !isAcceptable entry) = some entry →
              later.extend codes = .error (.ofCause (refusal entry)) ∧
                (refusal entry).kind = .code) ∧
              ((dictionary codes).find? (fun entry => !isAcceptable entry) = none →
                ∃ extended, later.extend codes = .ok extended)) ∧
          (∃ names, later.HasCodes names) ∧
          ∀ v kind code, v.kind? = some kind →
            Entries.find? (· == kind) later.defaults = some code →
            later.defaultCode v = .ok code ∧ later.contains code = .ok true := by
  refine ⟨fun _ _ _ => consistent_of_extend, ?_⟩
  intro table later htable hlater
  have h := consistent_of_history (ensureConsistent_eq_ok_iff.mp htable) hlater
  refine ⟨ensureConsistent_eq_ok_iff.mpr h, ?_, h.exists_hasCodes,
    fun _ _ _ => h.contains_defaultCode⟩
  intro codes hkeys
  have hextend := h.extend_eq hkeys
  refine ⟨fun entry hfind => ?_, fun hfind => ?_⟩
  · rw [hfind] at hextend
    exact ⟨hextend, kind_refusal entry⟩
  · rw [hfind] at hextend
    exact ⟨_, hextend⟩

/-- After the builtin alias `F` was replaced, it is still a code, and an extension is refused for
the first of two codes that are not acceptable. -/
theorem views_agree_over_replaced_alias :
    builtin.ensureConsistent = .ok () ∧ ∃ later,
      builtin.extend [(.text "F", .renderer fun _ padding => .ok padding)] = .ok later ∧
      later.extend [(.text "a", .renderer fun _ padding => .ok padding), (.text "5", .inert),
        (.text ".", .vacant)] = .error (.ofCause (.badCodeName (.text "5"))) ∧
      ∃ names, later.HasCodes names ∧ ("F" : Text) ∈ names := by
  have hextend : builtin.extend [(.text "F", .renderer fun _ padding => .ok padding)] =
      .ok (builtin.withLayer [(.text "F", .renderer fun _ padding => .ok padding)]) := rfl
  obtain ⟨-, hextends, ⟨names, hnames⟩, -⟩ :=
    views_agree_over_history.2 builtin _ ensureConsistent_builtin (.single ⟨_, hextend⟩)
  have hkeys : HasKeys [(.text "a", .renderer fun _ padding => .ok padding), (.text "5", .inert),
      (.text ".", .vacant)] := forM_eq_ok_iff.mp rfl
  refine ⟨ensureConsistent_builtin, _, hextend, ?_, names, hnames, ?_⟩
  · exact ((hextends _ hkeys).1 (.text "5", .inert) rfl).1
  · have hcontains : (builtin.withLayer [(.text "F",
        .renderer fun _ padding => .ok padding)]).contains (.text "F") = .ok true := rfl
    have hmem := Except.ok.inj (hcontains.symm.trans (hnames.contains_eq "F"))
    exact of_decide_eq_true hmem.symm

end BraceTemplate.CodeTable
