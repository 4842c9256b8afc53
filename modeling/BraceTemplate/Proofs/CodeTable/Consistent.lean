import BraceTemplate.CodeTable
import BraceTemplate.Proofs.Sequence
import BraceTemplate.Proofs.Value.Key

/-!
# Consistent code tables

The invariant of code tables: codes are proper names with renderers behind them, and aliases and
default codes name codes of the table. It says what the check of a table accepts, and it is what an
extension relies on. Over a consistent table, an extension is refused for the first of its codes
that is no proper name or has no renderer, and for nothing else; what comes out is consistent again.
-/

namespace BraceTemplate

/-! ## Names as keys -/

theorem exists_text_of_isCodeName {name : Value} (h : isCodeName name = true) :
    ∃ t, name = .text t := by
  cases name with
  | text t => exact ⟨t, rfl⟩
  | _ => simp [isCodeName] at h

theorem alone_of_isCodeName {name : Value} (h : isCodeName name = true) :
    Entries.Alone Value.sameKey name := by
  obtain ⟨t, rfl⟩ := exists_text_of_isCodeName h
  exact Value.alone_text t

/-! ## The invariant -/

/-- A code that can be added: a proper name with a renderer. -/
def isAcceptable (entry : Value × Handler) : Bool :=
  isCodeName entry.1 && entry.2.renderer?.isSome

/-- The codes are such that none of them is refused. -/
def Acceptable (codes : List (Value × Handler)) : Prop :=
  ∀ entry ∈ codes, isCodeName entry.1 = true ∧ entry.2.renderer?.isSome = true

theorem find?_not_isAcceptable {codes : List (Value × Handler)} :
    codes.find? (fun entry => !isAcceptable entry) = none ↔ Acceptable codes := by
  simp only [List.find?_eq_none, Acceptable, isAcceptable, Bool.not_eq_true', Bool.not_eq_false,
    Bool.and_eq_true]

theorem Acceptable.alone {codes : List (Value × Handler)} (h : Acceptable codes) :
    ∀ entry ∈ codes, Entries.Alone Value.sameKey entry.1 :=
  fun entry hmem => alone_of_isCodeName (h entry hmem).1

theorem Acceptable.overlay {base layer : List (Value × Handler)} (hbase : Acceptable base)
    (hlayer : Acceptable layer) : Acceptable (Entries.overlay Value.sameKey base layer) :=
  Entries.forall_overlay (P := fun name => isCodeName name = true)
    (Q := fun handler : Handler => handler.renderer?.isSome = true) hbase hlayer

namespace CodeTable

/-- Codes are proper names with renderers, and aliases and default codes name codes of the table. -/
structure Consistent (table : CodeTable) : Prop where
  handlers : Acceptable table.handlers
  aliases : ∀ entry ∈ table.aliases,
    isCodeName entry.1 = true ∧ (table.handler? entry.2).isSome = true
  defaults : ∀ entry ∈ table.defaults, (table.handler? entry.2).isSome = true

section Lookups

variable {table : CodeTable} {code : Value}

theorem exists_text_of_handler? (h : Acceptable table.handlers)
    (hcode : (table.handler? code).isSome = true) : ∃ t, code = .text t := by
  obtain ⟨handler, hhandler⟩ := Option.isSome_iff_exists.mp hcode
  obtain ⟨key, hmem, hsame⟩ := Entries.exists_of_find? hhandler
  obtain ⟨t, rfl⟩ := exists_text_of_isCodeName (h _ hmem).1
  exact ⟨t, ((Value.alone_text t).same_left code).mp hsame⟩

theorem holds_text (t : Text) :
    table.holds (.text t) = .ok (table.handler? (.text t)).isSome := rfl

theorem holds_eq_true_iff (h : Acceptable table.handlers) :
    table.holds code = .ok true ↔ (table.handler? code).isSome = true := by
  constructor
  · intro hholds
    obtain ⟨u, -, hsome⟩ := bind_eq_ok_iff.mp hholds
    exact Except.ok.inj hsome
  · intro hsome
    obtain ⟨t, rfl⟩ := exists_text_of_handler? h hsome
    rw [holds_text, hsome]

/-- In a table whose codes are acceptable, what is found under a code is a renderer. -/
theorem exists_renderer_of_handler? (h : Acceptable table.handlers) {handler : Handler}
    (hhandler : table.handler? code = some handler) : ∃ r, handler = .renderer r := by
  obtain ⟨key, hmem, -⟩ := Entries.exists_of_find? hhandler
  have hsome := (h _ hmem).2
  cases handler with
  | renderer r => exact ⟨r, rfl⟩
  | _ => simp [Handler.renderer?] at hsome

/-- What is stored under the code that a name stands for is the name's renderer. -/
theorem renderer_of_handler? (h : Acceptable table.handlers) {handler : Handler}
    (hhandler : table.handler? (table.target code) = some handler) :
    ∃ r, handler = .renderer r ∧ ∀ spec, table.renderer code spec = .ok r := by
  obtain ⟨r, rfl⟩ := exists_renderer_of_handler? h hhandler
  obtain ⟨t, ht⟩ := exists_text_of_handler? h (Option.isSome_of_eq_some hhandler)
  refine ⟨r, rfl, ?_⟩
  intro spec
  rw [renderer, hhandler, ht]
  rfl

end Lookups

/-! ## The check of a table -/

theorem checkHandler_eq_ok_iff {entry : Value × Handler} :
    checkHandler entry = .ok () ↔
      isCodeName entry.1 = true ∧ entry.2.renderer?.isSome = true := by
  unfold checkHandler
  cases isCodeName entry.1 <;> cases entry.2.renderer? <;> simp

theorem checkAlias_eq_ok_iff {table : CodeTable} (h : Acceptable table.handlers)
    {entry : Value × Value} :
    table.checkAlias entry = .ok () ↔
      isCodeName entry.1 = true ∧ (table.handler? entry.2).isSome = true := by
  rw [← holds_eq_true_iff h]
  unfold checkAlias
  cases isCodeName entry.1 with
  | false =>
    simp only [Bool.false_eq_true, if_false, false_and]
    exact require_eq_ok_iff.trans (by simp [pure, Except.pure])
  | true =>
    simp only [if_true, true_and]
    exact require_eq_ok_iff

theorem checkDefault_eq_ok_iff {table : CodeTable} (h : Acceptable table.handlers)
    {entry : Kind × Value} :
    table.checkDefault entry = .ok () ↔ (table.handler? entry.2).isSome = true := by
  rw [← holds_eq_true_iff h]
  exact require_eq_ok_iff

/-- The check accepts the consistent tables. -/
theorem ensureConsistent_eq_ok_iff {table : CodeTable} :
    table.ensureConsistent = .ok () ↔ table.Consistent := by
  have hsplit : table.ensureConsistent = .ok () ↔
      (∀ entry ∈ table.handlers, checkHandler entry = .ok ()) ∧
        (∀ entry ∈ table.aliases, table.checkAlias entry = .ok ()) ∧
          ∀ entry ∈ table.defaults, table.checkDefault entry = .ok () := by
    simp only [ensureConsistent, seq_eq_ok_iff, forM_eq_ok_iff]
  simp only [hsplit, checkHandler_eq_ok_iff]
  constructor
  · intro h
    obtain ⟨hhandlers, haliases, hdefaults⟩ := h
    exact ⟨hhandlers,
      fun entry hmem => (checkAlias_eq_ok_iff hhandlers).mp (haliases entry hmem),
      fun entry hmem => (checkDefault_eq_ok_iff hhandlers).mp (hdefaults entry hmem)⟩
  · intro h
    exact ⟨h.handlers,
      fun entry hmem => (checkAlias_eq_ok_iff h.handlers).mpr (h.aliases entry hmem),
      fun entry hmem => (checkDefault_eq_ok_iff h.handlers).mpr (h.defaults entry hmem)⟩

theorem ensureConsistent_builtin : builtin.ensureConsistent = .ok () := rfl

/-! ## Extension -/

/-- Why a code that is not acceptable is refused. -/
def refusal (entry : Value × Handler) : Cause :=
  if isCodeName entry.1 then .notCallable entry.1 else .badCodeName entry.1

theorem kind_refusal (entry : Value × Handler) : (refusal entry).kind = .code := by
  unfold refusal
  split <;> rfl

theorem checkLayer_eq (entry : Value × Handler) :
    checkLayer entry =
      if !isAcceptable entry then .error (.ofCause (refusal entry)) else .ok () := by
  unfold checkLayer isAcceptable refusal
  cases isCodeName entry.1 <;> cases entry.2.renderer? <;> rfl

/-- The dictionary of codes, of which a later one replaces an earlier one of the same name. -/
def dictionary (codes : List (Value × Handler)) : List (Value × Handler) :=
  Entries.ofList Value.sameKey codes

/-- What codes have under a name. -/
def found? (codes : List (Value × Handler)) (name : Value) : Option Handler :=
  Entries.find? (Value.sameKey · name) (dictionary codes)

section Extension

variable {table : CodeTable} {codes : List (Value × Handler)}

theorem isCodeName_of_mem (h : Acceptable (dictionary codes)) :
    ∀ entry ∈ codes, isCodeName entry.1 = true := by
  intro entry hmem
  have hkeys : ∃ key ∈ (dictionary codes).map (·.1),
      key = entry.1 ∨ Value.sameKey key entry.1 = true := Entries.exists_key_of_mem hmem
  obtain ⟨key, hkey, hsame⟩ := hkeys
  obtain ⟨stored, hstored, rfl⟩ := List.mem_map.mp hkey
  have hname := (h stored hstored).1
  rcases hsame with heq | hsame
  · rwa [← heq]
  · rwa [((alone_of_isCodeName hname).same_left entry.1).mp hsame]

theorem alone_of_mem (h : Acceptable (dictionary codes)) :
    ∀ entry ∈ codes, Entries.Alone Value.sameKey entry.1 :=
  fun entry hmem => alone_of_isCodeName (isCodeName_of_mem h entry hmem)

/-- A layer is looked into first. -/
theorem handler?_withLayer (h : Acceptable (dictionary codes)) (code : Value) :
    (table.withLayer (dictionary codes)).handler? code =
      (found? codes code).or (table.handler? code) := by
  have halone := alone_of_mem h
  rw [handler?, withLayer, dictionary, Entries.overlay_ofList halone, Entries.find?_overlay halone]
  rfl

theorem Consistent.withLayer (h : table.Consistent) (hcodes : Acceptable (dictionary codes)) :
    (table.withLayer (dictionary codes)).Consistent where
  handlers := h.handlers.overlay hcodes
  aliases := by
    intro entry hmem
    obtain ⟨hname, htarget⟩ := h.aliases entry (List.mem_filter.mp hmem).1
    exact ⟨hname, by simp [handler?_withLayer hcodes, htarget]⟩
  defaults := by
    intro entry hmem
    simp [handler?_withLayer hcodes, h.defaults entry hmem]

/-- Every name can be looked up. -/
def HasKeys (codes : List (Value × Handler)) : Prop :=
  ∀ entry ∈ codes, entry.1.checkKey = .ok ()

theorem hasKeys_of_acceptable (h : Acceptable (dictionary codes)) : HasKeys codes := by
  intro entry hmem
  obtain ⟨t, ht⟩ := exists_text_of_isCodeName (isCodeName_of_mem h entry hmem)
  rw [ht]
  rfl

/-- An extension checks its codes, and then what they make of the table. -/
theorem extend_eq_checks :
    table.extend codes = codes.forM (fun entry => entry.1.checkKey) >>= fun _ =>
      (dictionary codes).forM checkLayer >>= fun _ =>
        (table.withLayer (dictionary codes)).ensureConsistent >>= fun _ =>
          .ok (table.withLayer (dictionary codes)) := rfl

/-- A table that an extension gives has been checked. -/
theorem consistent_of_extend {extended : CodeTable} (h : table.extend codes = .ok extended) :
    extended.ensureConsistent = .ok () := by
  rw [extend_eq_checks] at h
  obtain ⟨-, -, h⟩ := bind_eq_ok_iff.mp h
  obtain ⟨-, -, h⟩ := bind_eq_ok_iff.mp h
  obtain ⟨⟨⟩, hchecked, h⟩ := bind_eq_ok_iff.mp h
  rwa [← Except.ok.inj h]

/-- Over a consistent table, an extension is refused for its first code that is not acceptable, and
else gives the table with the codes over its own. -/
theorem Consistent.extend_eq (h : table.Consistent) (hkeys : HasKeys codes) :
    table.extend codes =
      match (dictionary codes).find? (fun entry => !isAcceptable entry) with
      | some entry => .error (.ofCause (refusal entry))
      | none => .ok (table.withLayer (dictionary codes)) := by
  have hforM : codes.forM (fun entry => entry.1.checkKey) = .ok () := forM_eq_ok_iff.mpr hkeys
  rw [extend_eq_checks, hforM, forM_eq_of_refusal checkLayer_eq]
  cases hfind : (dictionary codes).find? (fun entry => !isAcceptable entry) with
  | some entry => rfl
  | none =>
    have hcodes := find?_not_isAcceptable.mp hfind
    rw [ensureConsistent_eq_ok_iff.mpr (h.withLayer hcodes)]
    rfl

/-- Acceptable codes are added. -/
theorem Consistent.extend_ok (h : table.Consistent) (hcodes : Acceptable (dictionary codes)) :
    table.extend codes = .ok (table.withLayer (dictionary codes)) := by
  rw [h.extend_eq (hasKeys_of_acceptable hcodes), find?_not_isAcceptable.mpr hcodes]

end Extension

end CodeTable

end BraceTemplate
